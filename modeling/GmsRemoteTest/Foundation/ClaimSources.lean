import GmsRemoteTest.Foundation.DeviceLocks

/-! Which sources hold claims. An operation of the registry can only add the source it was asked to
claim for, and a release without keys leaves its source nothing. -/
namespace GmsRemoteTest.DeviceClaims
open Text

/-- Some claim of the source is active. -/
def Claimed (rows : List Claim) (sourceId : String) : Prop := ∃ row ∈ rows, row.sourceId = sourceId ∧ row.status = .active

instance (rows : List Claim) (sourceId : String) : Decidable (Claimed rows sourceId) :=
  inferInstanceAs (Decidable (∃ row ∈ rows, row.sourceId = sourceId ∧ row.status = .active))

section
variable {rows : List Claim} {registry : Registry} {source : String}

theorem Claimed.of_update {selects : Claim → Prop} [DecidablePred selects] {set : Claim → Claim}
    (claimed : Claimed (Table.update selects set rows) source)
    (kept : ∀ row, selects row → (set row).status = .active → (set row).sourceId = row.sourceId ∧ row.status = .active) :
    Claimed rows source := by
  obtain ⟨row,member,named,active⟩ := claimed
  obtain ⟨old,held,rfl⟩ := Table.mem_update.mp member
  by_cases chosen : selects old
  · rw [if_pos chosen] at named active
    obtain ⟨same,before⟩ := kept old chosen active
    exact ⟨old,held,same.symm.trans named,before⟩
  · rw [if_neg chosen] at named active
    exact ⟨old,held,named,active⟩

theorem Claimed.of_expire {now : Nat} (claimed : Claimed (expire now rows) source) : Claimed rows source :=
  Claimed.of_update claimed fun _ chosen _ => ⟨rfl,chosen.1⟩

theorem Claimed.of_release {sourceId : String} {status : ClaimStatus} {keys : List String} {now : Nat}
    (claimed : Claimed (release registry sourceId status keys now).2.rows source) : Claimed registry.rows source := by
  unfold release at claimed
  split at claimed
  · exact claimed
  · rename_i closing
    exact claimed.of_update fun _ _ active => absurd active closing

theorem not_claimed_release (registry : Registry) (sourceId : String) {status : ClaimStatus} (closing : status ≠ .active) (now : Nat) :
    ¬ Claimed (release registry sourceId status [] now).2.rows sourceId := by
  rintro ⟨row,member,named,active⟩
  rw [release,if_neg closing] at member
  obtain ⟨old,held,rfl⟩ := Table.mem_update.mp member
  by_cases chosen : Held sourceId [] old
  · rw [if_pos chosen] at active
    exact closing active
  · rw [if_neg chosen] at named active
    exact chosen ⟨named,active,.inl rfl⟩

theorem Claimed.of_forceRelease {key : String} {now : Nat} (claimed : Claimed (forceRelease registry key now).2.rows source) :
    Claimed registry.rows source := by
  unfold forceRelease at claimed
  split at claimed
  · exact claimed
  · exact claimed.of_update fun _ _ active => (nomatch active)

def Grants (result : Except ClaimError Acquisition × Registry) : Prop := ∃ records, result.1 = .ok ⟨true,records⟩

section
variable {devices : List DeviceRequest} {request : ClaimRequest} {now later : Nat}
  (claimed : Claimed (acquire registry devices request now later).2.rows source)
include claimed

theorem Claimed.of_acquire :
    ¬ Grants (acquire registry devices request now later) ∧ Claimed registry.rows source ∨
      Grants (acquire registry devices request now later) ∧ (Claimed (expire now registry.rows) source ∨ source = strip request.sourceId) := by
  unfold acquire at claimed ⊢
  dsimp only at claimed ⊢
  split at claimed
  · rename_i none
    rw [if_pos none]
    exact .inl ⟨fun granted => (nomatch granted),claimed⟩
  rename_i asked
  rw [if_neg asked]
  split at claimed
  · rename_i anonymous
    rw [if_pos anonymous]
    exact .inl ⟨fun granted => (nomatch granted),claimed⟩
  rename_i named
  rw [if_neg named]
  split at claimed
  · rename_i clash
    rw [if_pos clash]
    exact .inl ⟨fun granted => (nomatch granted),claimed⟩
  rename_i free
  rw [if_neg free]
  refine .inr ⟨⟨_,rfl⟩,?_⟩
  have grown : ∀ (requested : List DeviceRequest) (grant : Grant), Claimed (requested.foldl
      (grantDevice (activeRow (expire now registry.rows)) request now (expiresAt later request.ttlSeconds)) grant).registry.rows source →
      Claimed grant.registry.rows source ∨ source = strip request.sourceId := by
    intro requested
    induction requested with
    | nil => exact fun _ held => .inl held
    | cons device requested ih =>
      intro grant held
      obtain before | own := ih _ held
      · unfold grantDevice at before
        split at before
        · exact .inl (before.of_update fun _ chosen _ => ⟨rfl,chosen.2⟩)
        · obtain ⟨row,member,same,active⟩ := before
          obtain old | new := List.mem_append.mp member
          · exact .inl ⟨row,old,same,active⟩
          · rw [List.mem_singleton.mp new] at same
            exact .inr same.symm
      · exact .inr own
  exact grown _ _ claimed

theorem Claimed.of_acquire_other (other : source ≠ strip request.sourceId) :
    Claimed registry.rows source := by
  obtain ⟨_,before⟩ | ⟨_,before | own⟩ := claimed.of_acquire
  · exact before
  · exact before.of_expire
  · exact absurd own other

end

theorem not_granted {devices : List DeviceRequest} {request : ClaimRequest} {now later : Nat}
    (clash : conflicts (expire now registry.rows) request (normalizeDevices devices) ≠ []) :
    ¬ Grants (acquire registry devices request now later) := by
  rintro ⟨records,granted⟩
  unfold acquire at granted
  dsimp only at granted
  split at granted
  · cases granted
  split at granted
  · cases granted
  cases granted

section
variable {old new sourceType ownerId : String} {ttl : Int} {keys : List String} {now later : Nat}

theorem Claimed.of_transfer (claimed : Claimed (transfer registry old new sourceType ttl ownerId keys now later).2.rows source) :
    Claimed registry.rows source ∨ source = new := by
  unfold transfer at claimed
  dsimp only at claimed
  split at claimed
  · exact .inl claimed
  split at claimed
  · exact .inl claimed
  split at claimed
  · exact .inl claimed
  obtain ⟨row,member,named,active⟩ := claimed
  obtain ⟨before,held,rfl⟩ := Table.mem_update.mp member
  by_cases chosen : Held old [] before
  · rw [if_pos chosen] at named
    exact .inr named.symm
  · rw [if_neg chosen] at named active
    exact .inl (Claimed.of_expire ⟨before,held,named,active⟩)

theorem not_claimed_transfer (different : new ≠ old) (moved : 0 < (transfer registry old new sourceType ttl ownerId keys now later).1) :
    ¬ Claimed (transfer registry old new sourceType ttl ownerId keys now later).2.rows old := by
  unfold transfer at moved ⊢
  dsimp only at moved ⊢
  split at moved
  · cases moved
  rename_i some
  rw [if_neg some]
  split at moved
  · cases moved
  rename_i owned
  rw [if_neg owned]
  split at moved
  · cases moved
  rename_i matching
  rw [if_neg matching]
  rintro ⟨row,member,named,active⟩
  obtain ⟨before,held,rfl⟩ := Table.mem_update.mp member
  by_cases chosen : Held old [] before
  · rw [if_pos chosen] at named
    exact different named
  · rw [if_neg chosen] at named active
    exact chosen ⟨named,active,.inl rfl⟩

theorem transfer_none (none : ¬ 0 < (transfer registry old new sourceType ttl ownerId keys now later).1) :
    (transfer registry old new sourceType ttl ownerId keys now later).2 = registry := by
  unfold transfer at none ⊢
  dsimp only at none ⊢
  split
  · rfl
  rename_i some
  rw [if_neg some] at none
  split
  · rfl
  rename_i owned
  rw [if_neg owned] at none
  split
  · rfl
  rename_i matching
  rw [if_neg matching] at none
  exact absurd (List.length_pos_of_ne_nil some) none

end

end

end GmsRemoteTest.DeviceClaims

namespace GmsRemoteTest.DeviceLocks.Manager
open DeviceClaims

variable {manager : Manager} {registry : Registry} {source : String}

theorem claimed_unlockDevice {deviceId clientId name : String} {now later : Nat}
    (claimed : Claimed (manager.unlockDevice registry deviceId clientId name now later).2.rows source) : Claimed registry.rows source := by
  unfold unlockDevice at claimed
  dsimp only at claimed
  split at claimed
  · exact claimed.of_expire
  split at claimed
  · exact claimed.of_expire
  split at claimed
  · exact claimed.of_expire
  · exact claimed.of_release.of_expire

theorem claimed_forceUnlockDevice {deviceId : String} {now later : Nat}
    (claimed : Claimed (manager.forceUnlockDevice registry deviceId now later).2.rows source) : Claimed registry.rows source := by
  unfold forceUnlockDevice at claimed
  dsimp only at claimed
  split at claimed
  · exact claimed.of_expire
  · exact claimed.of_forceRelease.of_expire

end GmsRemoteTest.DeviceLocks.Manager
