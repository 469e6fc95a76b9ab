import GmsRemoteTest.Foundation.Acquisition
import GmsRemoteTest.Foundation.ClaimSources

/-! What happens to one live claim while the registry works for others: every operation that does not
name its source leaves it what it was, and a transfer there and back returns it. -/
namespace GmsRemoteTest.DeviceClaims
open Text

/-- `kept` is the same claim as `row`, and live. -/
structure Still (now : Nat) (row kept : Claim) : Prop where
  id : kept.id = row.id
  deviceKey : kept.deviceKey = row.deviceKey
  generation : kept.generation = row.generation
  ownerId : kept.ownerId = row.ownerId
  sourceId : kept.sourceId = row.sourceId
  sourceType : kept.sourceType = row.sourceType
  active : kept.status = .active
  live : now < kept.expiresAt

def Survives (now : Nat) (row : Claim) (rows : List Claim) : Prop := ∃ kept ∈ rows, Still now row kept

section
variable {now : Nat} {row : Claim} {rows : List Claim} {registry : Registry}

theorem lt_expiresAt (now : Nat) (ttl : Int) : now < expiresAt now ttl := by
  unfold expiresAt
  omega

theorem Survives.start (member : row ∈ rows) (active : row.status = .active) (live : now < row.expiresAt) : Survives now row rows :=
  ⟨row,member,rfl,rfl,rfl,rfl,rfl,rfl,active,live⟩

theorem Survives.update (there : Survives now row rows) {selects : Claim → Prop} [DecidablePred selects] {set : Claim → Claim}
    (keeps : ∀ kept, Still now row kept → selects kept → Still now row (set kept)) : Survives now row (Table.update selects set rows) := by
  obtain ⟨kept,member,still⟩ := there
  refine ⟨_,Table.mem_update.mpr ⟨kept,member,rfl⟩,?_⟩
  by_cases chosen : selects kept
  · rw [if_pos chosen]
    exact keeps kept still chosen
  · rw [if_neg chosen]
    exact still

theorem Survives.expire (there : Survives now row rows) : Survives now row (expire now rows) :=
  there.update fun _ still lapsed => absurd lapsed.2 (Nat.not_le_of_lt still.live)

theorem Survives.release (there : Survives now row registry.rows) {source : String} (other : row.sourceId ≠ source) (status : ClaimStatus)
    (keys : List String) : Survives now row (release registry source status keys now).2.rows := by
  unfold DeviceClaims.release
  split
  · exact there
  · exact there.update fun _ still held => absurd (still.sourceId.symm.trans held.1) other

theorem Survives.extend (there : Survives now row rows) {selects : Claim → Prop} [DecidablePred selects] (ttl : Int) :
    Survives now row (Table.update selects (fun old => extended old now (expiresAt now ttl)) rows) :=
  there.update fun _ still _ =>
    ⟨still.id,still.deviceKey,still.generation,still.ownerId,still.sourceId,still.sourceType,still.active,lt_expiresAt now ttl⟩

theorem Survives.grants (existing : String → Option Claim) (request : ClaimRequest) (devices : List DeviceRequest) {grant : Grant}
    (there : Survives now row grant.registry.rows) :
    Survives now row (devices.foldl (grantDevice existing request now (expiresAt now request.ttlSeconds)) grant).registry.rows := by
  induction devices generalizing grant with
  | nil => exact there
  | cons device devices ih =>
    refine ih ?_
    unfold grantDevice
    split
    · exact there.extend _
    · obtain ⟨kept,member,still⟩ := there
      exact ⟨kept,List.mem_append_left _ member,still⟩

theorem Survives.acquire (there : Survives now row registry.rows) (devices : List DeviceRequest) (request : ClaimRequest) :
    Survives now row (acquire registry devices request now now).2.rows := by
  unfold DeviceClaims.acquire
  dsimp only
  split
  · exact there
  split
  · exact there
  split
  · exact there
  · exact Survives.grants _ request _ there.expire

theorem acquire_refused {devices : List DeviceRequest} {request : ClaimRequest} {later : Nat}
    (refused : ¬ Grants (acquire registry devices request now later)) : (acquire registry devices request now later).2 = registry := by
  unfold acquire at refused ⊢
  dsimp only at refused ⊢
  split
  · rfl
  rename_i asked
  rw [if_neg asked] at refused
  split
  · rfl
  rename_i named
  rw [if_neg named] at refused
  split
  · rfl
  rename_i free
  rw [if_neg free] at refused
  exact absurd ⟨_,rfl⟩ refused

structure Movable (rows : List Claim) (source ownerId : String) (keys : List String) : Prop where
  some : ∃ row ∈ rows, Held source [] row
  owned : ownerId ≠ "" → ∀ row ∈ rows, Held source [] row → row.ownerId = ownerId
  asked : keys ≠ [] → ∀ row ∈ rows, Held source [] row → row.deviceKey ∈ keys
  all : ∀ key ∈ keys, ∃ row ∈ rows, Held source [] row ∧ row.deviceKey = key

theorem transfer_outcome (registry : Registry) (old new sourceType ownerId : String) (ttl : Int) (keys : List String) (now later : Nat) :
    let result := transfer registry old new sourceType ttl ownerId keys now later
    (result.1 = 0 ∧ result.2 = registry ∧ ¬ Movable (expire now registry.rows) old ownerId keys) ∨
    (0 < result.1 ∧ Movable (expire now registry.rows) old ownerId keys ∧ result.2 = {registry with
      rows := Table.update (Held old []) (fun row => reassigned row new sourceType now (expiresAt later ttl)) (expire now registry.rows)}) := by
  intro result
  have listed : ∀ row, row ∈ Table.select (Held old []) (expire now registry.rows) ↔ row ∈ expire now registry.rows ∧ Held old [] row :=
    fun row => Table.mem_select
  by_cases none : Table.select (Held old []) (expire now registry.rows) = []
  · refine .inl ?_
    have same : result = (0,registry) := if_pos none
    refine ⟨congrArg Prod.fst same,congrArg Prod.snd same,fun movable => ?_⟩
    obtain ⟨row,member,held⟩ := movable.some
    exact Table.select_eq_nil.mp none row member held
  by_cases foreign : ownerId ≠ "" ∧ ∃ row ∈ Table.select (Held old []) (expire now registry.rows), row.ownerId ≠ ownerId
  · refine .inl ?_
    have same : result = (0,registry) := (if_neg none).trans (if_pos foreign)
    refine ⟨congrArg Prod.fst same,congrArg Prod.snd same,fun movable => ?_⟩
    obtain ⟨named,row,member,other⟩ := foreign
    obtain ⟨there,held⟩ := (listed row).mp member
    exact other (movable.owned named row there held)
  by_cases apart : keys ≠ [] ∧ ¬ ((∀ row ∈ Table.select (Held old []) (expire now registry.rows), row.deviceKey ∈ keys) ∧
      ∀ key ∈ keys, ∃ row ∈ Table.select (Held old []) (expire now registry.rows), row.deviceKey = key)
  · refine .inl ?_
    have same : result = (0,registry) := (if_neg none).trans ((if_neg foreign).trans (if_pos apart))
    refine ⟨congrArg Prod.fst same,congrArg Prod.snd same,fun movable => apart.2 ⟨?_,?_⟩⟩
    · intro row member
      obtain ⟨there,held⟩ := (listed row).mp member
      exact movable.asked apart.1 row there held
    · intro key wanted
      obtain ⟨row,there,held,same⟩ := movable.all key wanted
      exact ⟨row,(listed row).mpr ⟨there,held⟩,same⟩
  · refine .inr ?_
    have moved : result = ((Table.select (Held old []) (expire now registry.rows)).length,_) :=
      (if_neg none).trans ((if_neg foreign).trans (if_neg apart))
    refine ⟨?_,?_,congrArg Prod.snd moved⟩
    · rw [moved]
      exact List.length_pos_of_ne_nil none
    simp only [ne_eq,not_and,not_exists,not_not] at foreign
    have fitting := fun asked : keys ≠ [] => not_not.mp fun other => apart ⟨asked,other⟩
    obtain ⟨first,there⟩ := List.exists_mem_of_ne_nil _ none
    refine ⟨⟨first,(listed first).mp there⟩,?_,?_,?_⟩
    · exact fun named row member held => foreign named row ((listed row).mpr ⟨member,held⟩)
    · exact fun asked row member held => (fitting asked).1 row ((listed row).mpr ⟨member,held⟩)
    · intro key wanted
      obtain ⟨row,member,same⟩ := (fitting (List.ne_nil_of_mem wanted)).2 key wanted
      obtain ⟨there,held⟩ := (listed row).mp member
      exact ⟨row,there,held,same⟩

def Claim.under (row : Claim) (source sourceType : String) : Claim := {row with sourceId := source, sourceType := sourceType}

theorem Still.reassigned {kept : Claim} (still : Still now row kept) (source sourceType : String) (ttl : Int) :
    Still now (row.under source sourceType) (reassigned kept source sourceType now (expiresAt now ttl)) :=
  ⟨still.id,still.deviceKey,still.generation,still.ownerId,rfl,rfl,still.active,lt_expiresAt now ttl⟩

variable {old new sourceType ownerId : String} {ttl : Int} {keys : List String}

theorem Survives.transfer_other (there : Survives now row registry.rows) (other : row.sourceId ≠ old) :
    Survives now row (transfer registry old new sourceType ttl ownerId keys now now).2.rows := by
  obtain ⟨-,same,-⟩ | ⟨-,-,moved⟩ := transfer_outcome registry old new sourceType ownerId ttl keys now now
  · rw [same]
    exact there
  · rw [moved]
    exact there.expire.update fun _ still held => absurd (still.sourceId.symm.trans held.1) other

theorem Survives.transferred (there : Survives now row registry.rows) (own : row.sourceId = old)
    (moved : 0 < (transfer registry old new sourceType ttl ownerId keys now now).1) :
    Survives now (row.under new sourceType) (transfer registry old new sourceType ttl ownerId keys now now).2.rows := by
  obtain ⟨none,-⟩ | ⟨-,-,rows⟩ := transfer_outcome registry old new sourceType ownerId ttl keys now now
  · exact absurd none (Nat.ne_of_gt moved)
  rw [rows]
  obtain ⟨kept,member,still⟩ := there.expire
  have held : Held old [] kept := ⟨still.sourceId.trans own,still.active,.inl rfl⟩
  exact ⟨_,Table.mem_update.mpr ⟨kept,member,if_pos held⟩,still.reassigned new sourceType ttl⟩

theorem mem_of_closing {selects : Claim → Prop} [DecidablePred selects] {set : Claim → Claim}
    (closes : ∀ row, selects row → (set row).status ≠ .active) (member : row ∈ Table.update selects set rows) (active : row.status = .active) :
    row ∈ rows := by
  obtain ⟨before,there,rfl⟩ := Table.mem_update.mp member
  by_cases chosen : selects before
  · rw [if_pos chosen] at active
    exact absurd active (closes before chosen)
  · rw [if_neg chosen]
    exact there

theorem mem_of_expire (member : row ∈ expire now rows) (active : row.status = .active) : row ∈ rows :=
  mem_of_closing (fun _ _ => by simp) member active

theorem mem_of_release {source : String} {status : ClaimStatus} {listed : List String}
    (member : row ∈ (release registry source status listed now).2.rows) (active : row.status = .active) : row ∈ registry.rows := by
  unfold release at member
  split at member
  · exact member
  · rename_i closing
    exact mem_of_closing (fun _ _ => closing) member active

theorem transfer_back {second : Registry} (fresh : ∀ row ∈ registry.rows, row.sourceId ≠ new)
    (moved : 0 < (transfer registry old new sourceType ttl ownerId keys now now).1)
    (keeps : ∀ row, row.sourceId = new → Survives now row (transfer registry old new sourceType ttl ownerId keys now now).2.rows →
      Survives now row second.rows)
    (only : ∀ row ∈ second.rows, row.status = .active → row ∈ (transfer registry old new sourceType ttl ownerId keys now now).2.rows)
    (backType : String) (backTtl : Int) : 0 < (transfer second new old backType backTtl ownerId keys now now).1 := by
  obtain ⟨none,-⟩ | ⟨-,movable,rows⟩ := transfer_outcome registry old new sourceType ownerId ttl keys now now
  · exact absurd none (Nat.ne_of_gt moved)
  have back : ∀ row ∈ expire now second.rows, Held new [] row → ∃ before ∈ expire now registry.rows,
      Held old [] before ∧ row.ownerId = before.ownerId ∧ row.deviceKey = before.deviceKey := by
    intro row member held
    have there := only row (mem_of_expire member held.2.1) held.2.1
    rw [rows] at there
    obtain ⟨before,listed,rfl⟩ := Table.mem_update.mp there
    by_cases chosen : Held old [] before
    · rw [if_pos chosen]
      exact ⟨before,listed,chosen,rfl,rfl⟩
    · rw [if_neg chosen] at held
      exact absurd held.1 (fresh before (mem_of_expire listed held.2.1))
  have forth : ∀ before ∈ expire now registry.rows, Held old [] before →
      ∃ row ∈ expire now second.rows, Held new [] row ∧ row.deviceKey = before.deviceKey := by
    intro before listed held
    obtain ⟨there,active,live⟩ := expire_active.mp ⟨listed,held.2.1⟩
    obtain ⟨kept,member,still⟩ := (keeps _ rfl ((Survives.start there active live).transferred held.1 moved)).expire
    exact ⟨kept,member,⟨still.sourceId,still.active,.inl rfl⟩,still.deviceKey⟩
  have again : Movable (expire now second.rows) new ownerId keys := by
    refine ⟨?_,?_,?_,?_⟩
    · obtain ⟨before,listed,held⟩ := movable.some
      obtain ⟨row,member,under,-⟩ := forth before listed held
      exact ⟨row,member,under⟩
    · intro named row member held
      obtain ⟨before,listed,under,owner,-⟩ := back row member held
      exact owner.trans (movable.owned named before listed under)
    · intro asked row member held
      obtain ⟨before,listed,under,-,key⟩ := back row member held
      exact key ▸ movable.asked asked before listed under
    · intro key wanted
      obtain ⟨before,listed,under,same⟩ := movable.all key wanted
      obtain ⟨row,member,held,known⟩ := forth before listed under
      exact ⟨row,member,held,known.trans same⟩
  obtain ⟨-,-,refused⟩ | ⟨some,-⟩ := transfer_outcome second new old backType ownerId backTtl keys now now
  · exact absurd again refused
  · exact some

end

end GmsRemoteTest.DeviceClaims
