import GmsRemoteTest.Foundation.ClaimRepair

/-! Renewal of everything a source holds, and the claims of other sources beside it. -/
namespace GmsRemoteTest.DeviceClaims

/-- The key is claimed by this source for this owner. -/
def Keeps (now : Nat) (registry : Registry) (sourceId ownerId key : String) : Prop :=
  ∃ row ∈ registry.rows, Current now row ∧ row.sourceId = sourceId ∧ row.ownerId = ownerId ∧ row.deviceKey = key

instance (now : Nat) (registry : Registry) (sourceId ownerId key : String) : Decidable (Keeps now registry sourceId ownerId key) :=
  inferInstanceAs (Decidable (∃ row ∈ registry.rows, Current now row ∧ row.sourceId = sourceId ∧ row.ownerId = ownerId ∧ row.deviceKey = key))

def KeepsUntil (expires now : Nat) (registry : Registry) (sourceId ownerId key : String) : Prop :=
  ∃ row ∈ registry.rows, Current now row ∧ row.sourceId = sourceId ∧ row.ownerId = ownerId ∧ row.deviceKey = key ∧ row.expiresAt = expires

instance (expires now : Nat) (registry : Registry) (sourceId ownerId key : String) :
    Decidable (KeepsUntil expires now registry sourceId ownerId key) :=
  inferInstanceAs (Decidable (∃ row ∈ registry.rows, Current now row ∧ row.sourceId = sourceId ∧ row.ownerId = ownerId ∧
    row.deviceKey = key ∧ row.expiresAt = expires))

section
variable {now : Nat} {registry before after : Registry} {sourceId ownerId key : String}

theorem keeps_activeRow (valid : registry.Valid) : Keeps now registry sourceId ownerId key ↔
    ∃ row, activeRow (expire now registry.rows) key = some row ∧ row.sourceId = sourceId ∧ row.ownerId = ownerId := by
  constructor
  · rintro ⟨row,member,current,source,owner,same⟩
    obtain ⟨listed,active⟩ := mem_sweep.mpr ⟨member,current⟩
    obtain ⟨found,fetched⟩ := Table.fetch_isSome (fun row : Claim => row.deviceKey = key ∧ row.status = .active) listed ⟨same,active⟩
    have selected := Table.fetch_selects fetched
    have equal : found = row := (expire_valid valid now).1.unique (Table.fetch_mem fetched) listed (selected.1.trans same.symm) selected.2 active
    rw [equal] at fetched
    exact ⟨row,fetched,source,owner⟩
  · rintro ⟨row,fetched,source,owner⟩
    have selected := Table.fetch_selects fetched
    obtain ⟨member,current⟩ := mem_sweep.mp ⟨Table.fetch_mem fetched,selected.2⟩
    exact ⟨row,member,current,source,owner,selected.1⟩

theorem Repairs.keeps_iff (repairs : Repairs now (· ≠ sourceId) (· ≠ sourceId) before after) :
    Keeps now after sourceId ownerId key ↔ Keeps now before sourceId ownerId key := by
  constructor
  · rintro ⟨row,member,current,source,rest⟩
    obtain old | new := repairs.origin row member current
    · exact ⟨row,old,current,source,rest⟩
    · exact absurd source new
  · rintro ⟨row,member,current,source,rest⟩
    exact ⟨row,repairs.kept row member current fun other => other source,current,source,rest⟩

theorem Repairs.keepsUntil {expires : Nat} (repairs : Repairs now (· ≠ sourceId) (· ≠ sourceId) before after)
    (keeps : KeepsUntil expires now before sourceId ownerId key) : KeepsUntil expires now after sourceId ownerId key := by
  obtain ⟨row,member,current,source,rest⟩ := keeps
  exact ⟨row,repairs.kept row member current fun other => other source,current,source,rest⟩

theorem expiresAt_later (now : Nat) (ttlSeconds : Int) : now < expiresAt now ttlSeconds := by
  unfold expiresAt
  omega

theorem renew_rows {ttlSeconds : Int} : (renew registry sourceId ttlSeconds [] now now).2.rows =
    Table.update (Held sourceId []) (fun row => extended row now (expiresAt now ttlSeconds)) (sweep now registry).rows := rfl

theorem renew_repairs (registry : Registry) (sourceId : String) (ttlSeconds : Int) (now : Nat) :
    Repairs now (· = sourceId) (· = sourceId) registry (renew registry sourceId ttlSeconds [] now now).2 := by
  constructor
  · intro row member current other
    rw [renew_rows]
    refine Table.mem_update.mpr ⟨row,(mem_sweep.mpr ⟨member,current⟩).1,?_⟩
    rw [if_neg fun held => other held.1]
  · intro row member current
    rw [renew_rows] at member
    obtain ⟨old,listed,rfl⟩ := Table.mem_update.mp member
    by_cases held : Held sourceId [] old
    · rw [if_pos held]
      exact .inr held.1
    · rw [if_neg held] at current ⊢
      exact .inl (mem_sweep.mp ⟨listed,current.1⟩).1

theorem renew_keepsUntil {ttlSeconds : Int} (keeps : Keeps now registry sourceId ownerId key) :
    KeepsUntil (expiresAt now ttlSeconds) now (renew registry sourceId ttlSeconds [] now now).2 sourceId ownerId key := by
  obtain ⟨row,member,current,source,owner,same⟩ := keeps
  refine ⟨extended row now (expiresAt now ttlSeconds),?_,⟨current.1,expiresAt_later now ttlSeconds⟩,source,owner,same,rfl⟩
  rw [renew_rows]
  refine Table.mem_update.mpr ⟨row,(mem_sweep.mpr ⟨member,current⟩).1,?_⟩
  rw [if_pos ⟨source,current.1,.inl rfl⟩]

theorem renew_keeps_iff {ttlSeconds : Int} : Keeps now (renew registry sourceId ttlSeconds [] now now).2 sourceId ownerId key ↔
    Keeps now registry sourceId ownerId key := by
  constructor
  · rintro ⟨row,member,current,source,owner,same⟩
    rw [renew_rows] at member
    obtain ⟨old,listed,rfl⟩ := Table.mem_update.mp member
    by_cases held : Held sourceId [] old
    · rw [if_pos held] at owner same
      obtain ⟨there,lasting⟩ := mem_sweep.mp ⟨listed,held.2.1⟩
      exact ⟨old,there,lasting,held.1,owner,same⟩
    · rw [if_neg held] at current source
      exact absurd ⟨source,current.1,.inl rfl⟩ held
  · intro keeps
    obtain ⟨row,member,current,source,owner,same,-⟩ := renew_keepsUntil keeps
    exact ⟨row,member,current,source,owner,same⟩

theorem renew_counts {ttlSeconds : Int} {keys : List String} (distinct : keys.Nodup)
    (held : ∀ key ∈ keys, Keeps now registry sourceId ownerId key) : keys.length ≤ (renew registry sourceId ttlSeconds [] now now).1 := by
  have listed : keys ⊆ (Table.select (Held sourceId []) (sweep now registry).rows).map (·.deviceKey) := by
    intro key member
    obtain ⟨row,there,current,source,-,same⟩ := held key member
    refine List.mem_map.mpr ⟨row,Table.mem_select.mpr ⟨(mem_sweep.mpr ⟨there,current⟩).1,source,current.1,.inl rfl⟩,same⟩
  have bounded := (List.subperm_of_subset distinct listed).length_le
  rw [List.length_map] at bounded
  exact bounded

end

end GmsRemoteTest.DeviceClaims
