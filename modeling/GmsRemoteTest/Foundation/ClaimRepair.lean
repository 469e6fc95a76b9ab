import GmsRemoteTest.Foundation.Acquisition

/-! What a repair of the registry does to the claims in force at one moment: some
sources lose all they hold, some take keys nobody held, and everything else stays. -/
namespace GmsRemoteTest.DeviceClaims
open Text

def Current (now : Nat) (row : Claim) : Prop := row.status = .active ∧ now < row.expiresAt

instance (now : Nat) : DecidablePred (Current now) :=
  fun row => inferInstanceAs (Decidable (row.status = .active ∧ now < row.expiresAt))

def HeldBy (now : Nat) (registry : Registry) (sourceId : String) : Prop :=
  ∃ row ∈ registry.rows, Current now row ∧ row.sourceId = sourceId

instance (now : Nat) (registry : Registry) (sourceId : String) : Decidable (HeldBy now registry sourceId) :=
  inferInstanceAs (Decidable (∃ row ∈ registry.rows, Current now row ∧ row.sourceId = sourceId))

def HoldsKey (now : Nat) (registry : Registry) (sourceId key : String) : Prop :=
  ∃ row ∈ registry.rows, Current now row ∧ row.sourceId = sourceId ∧ row.deviceKey = key

instance (now : Nat) (registry : Registry) (sourceId key : String) : Decidable (HoldsKey now registry sourceId key) :=
  inferInstanceAs (Decidable (∃ row ∈ registry.rows, Current now row ∧ row.sourceId = sourceId ∧ row.deviceKey = key))

def Swept (now : Nat) (registry : Registry) : Prop := ∀ row ∈ registry.rows, row.status = .active → now < row.expiresAt

def sweep (now : Nat) (registry : Registry) : Registry := {registry with rows := expire now registry.rows}

variable {now : Nat} {registry : Registry} {row : Claim}

theorem mem_sweep : row ∈ (sweep now registry).rows ∧ row.status = .active ↔ row ∈ registry.rows ∧ Current now row := by
  unfold sweep expire Current
  simp only [Table.mem_update]
  constructor
  · rintro ⟨⟨old,member,rfl⟩,active⟩
    by_cases lapsed : old.status = .active ∧ old.expiresAt ≤ now
    · simp [lapsed] at active
    · rw [if_neg lapsed] at active ⊢
      refine ⟨member,active,?_⟩
      by_contra late
      exact lapsed ⟨active,Nat.le_of_not_lt late⟩
  · rintro ⟨member,active,early⟩
    refine ⟨⟨row,member,?_⟩,active⟩
    rw [if_neg]
    rintro ⟨_,late⟩
    omega

theorem sweep_swept (now : Nat) (registry : Registry) : Swept now (sweep now registry) :=
  fun _ member active => (mem_sweep.mp ⟨member,active⟩).2.2

theorem sweep_valid (valid : registry.Valid) (now : Nat) : (sweep now registry).Valid :=
  (advances_expire registry now).valid valid

theorem held_sweep {sourceId : String} : HeldBy now (sweep now registry) sourceId ↔ HeldBy now registry sourceId := by
  constructor
  · rintro ⟨row,member,current,named⟩
    exact ⟨row,(mem_sweep.mp ⟨member,current.1⟩).1,current,named⟩
  · rintro ⟨row,member,current,named⟩
    exact ⟨row,(mem_sweep.mpr ⟨member,current⟩).1,current,named⟩

theorem Swept.sweep_eq (swept : Swept now registry) : sweep now registry = registry := by
  have same : expire now registry.rows = registry.rows := by
    apply Table.update_eq_self
    rintro row member ⟨active,late⟩
    have early := swept row member active
    omega
  unfold sweep
  rw [same]

theorem listBySource_eq (registry : Registry) (sourceId : String) (now : Nat) :
    (listBySource registry sourceId now).2 = sweep now registry := rfl

theorem listBySource_nil {sourceId : String} :
    (listBySource registry sourceId now).1 = [] ↔ ¬ HeldBy now registry sourceId := by
  unfold listBySource
  rw [List.eq_nil_iff_forall_not_mem]
  constructor
  · rintro empty ⟨row,member,current,named⟩
    have kept := mem_sweep.mpr ⟨member,current⟩
    exact empty row (Table.mem_select.mpr ⟨kept.1,named,kept.2⟩)
  · intro unheld row listed
    obtain ⟨member,named,active⟩ := Table.mem_select.mp listed
    have current := mem_sweep.mp ⟨member,active⟩
    exact unheld ⟨row,current.1,current.2,named⟩

/-- The claims in force change only in that `released` sources lose rows and `taken` sources get new ones. -/
structure Repairs (now : Nat) (released taken : String → Prop) (before after : Registry) : Prop where
  kept : ∀ row ∈ before.rows, Current now row → ¬ released row.sourceId → row ∈ after.rows
  origin : ∀ row ∈ after.rows, Current now row → row ∈ before.rows ∨ taken row.sourceId

section
variable {released taken : String → Prop} {before middle after : Registry} {sourceId : String}

theorem Repairs.refl (registry : Registry) : Repairs now released taken registry registry :=
  ⟨fun _ member _ _ => member,fun _ member _ => .inl member⟩

theorem Repairs.trans (first : Repairs now released taken before middle)
    (second : Repairs now released taken middle after) : Repairs now released taken before after := by
  constructor
  · intro row member current stays
    exact second.kept row (first.kept row member current stays) current stays
  · intro row member current
    rcases second.origin row member current with old | new
    · exact first.origin row old current
    · exact .inr new

section
variable (repairs : Repairs now released taken before after)
include repairs

theorem Repairs.widen {other more : String → Prop}
    (releases : ∀ sourceId, released sourceId → other sourceId) (takes : ∀ sourceId, taken sourceId → more sourceId) :
    Repairs now other more before after :=
  ⟨fun row member current stays => repairs.kept row member current fun gone => stays (releases _ gone),
    fun row member current => (repairs.origin row member current).imp_right (takes _)⟩

theorem Repairs.holds (stays : ¬ released sourceId) {key : String}
    (holds : HoldsKey now before sourceId key) : HoldsKey now after sourceId key := by
  obtain ⟨row,member,current,named,same⟩ := holds
  exact ⟨row,repairs.kept row member current (by rw [named]; exact stays),current,named,same⟩

theorem Repairs.held (stays : ¬ released sourceId)
    (held : HeldBy now before sourceId) : HeldBy now after sourceId := by
  obtain ⟨row,member,current,named⟩ := held
  exact ⟨row,repairs.kept row member current (by rw [named]; exact stays),current,named⟩

theorem Repairs.held_before (untaken : ¬ taken sourceId)
    (held : HeldBy now after sourceId) : HeldBy now before sourceId := by
  obtain ⟨row,member,current,rfl⟩ := held
  rcases repairs.origin row member current with old | new
  · exact ⟨row,old,current,rfl⟩
  · exact absurd new untaken

end

theorem repairs_sweep (now : Nat) (registry : Registry) : Repairs now released taken registry (sweep now registry) :=
  ⟨fun _ member current _ => (mem_sweep.mpr ⟨member,current⟩).1,
    fun _ member current => .inl (mem_sweep.mp ⟨member,current.1⟩).1⟩

theorem repairs_release (registry : Registry) (sourceId : String) {status : ClaimStatus} (final : status ≠ .active)
    (now : Nat) : Repairs now (fun source => source = sourceId) taken registry (release registry sourceId status [] now).2 ∧
      ¬ HeldBy now (release registry sourceId status [] now).2 sourceId := by
  have rows : (release registry sourceId status [] now).2.rows =
      Table.update (Held sourceId []) (fun row => closed row status now) registry.rows := by
    unfold release
    rw [if_neg final]
  refine ⟨⟨?_,?_⟩,?_⟩
  · intro row member current stays
    rw [rows]
    exact Table.mem_update.mpr ⟨row,member,if_neg fun chosen => stays chosen.1⟩
  · intro row member current
    rw [rows] at member
    obtain ⟨old,present,rfl⟩ := Table.mem_update.mp member
    by_cases chosen : Held sourceId [] old
    · rw [if_pos chosen] at current
      exact absurd current.1 final
    · rw [if_neg chosen]
      exact .inl present
  · rintro ⟨row,member,current,named⟩
    rw [rows] at member
    obtain ⟨old,present,rfl⟩ := Table.mem_update.mp member
    by_cases chosen : Held sourceId [] old
    · rw [if_pos chosen] at current
      exact absurd current.1 final
    · rw [if_neg chosen] at current named
      exact chosen ⟨named,current.1,.inl rfl⟩

theorem release_swept (swept : Swept now registry) {status : ClaimStatus} (final : status ≠ .active) :
    Swept now (release registry sourceId status [] now).2 := by
  intro row member active
  unfold release at member
  rw [if_neg final] at member
  obtain ⟨old,present,rfl⟩ := Table.mem_update.mp member
  by_cases chosen : Held sourceId [] old
  · rw [if_pos chosen] at active
    exact absurd active final
  · rw [if_neg chosen] at active ⊢
    exact swept old present active

end

def Blocked (now : Nat) (registry : Registry) (devices : List DeviceRequest) (stays : String → Prop) : Prop :=
  ∃ row ∈ registry.rows, Current now row ∧ row.deviceKey ∈ requestedKeys devices ∧ stays row.sourceId

theorem Repairs.blocked {released taken : String → Prop} {before after : Registry}
    (repairs : Repairs now released taken before after) {devices : List DeviceRequest}
    (blocked : Blocked now before devices fun sourceId => ¬ released sourceId) :
    Blocked now after devices fun sourceId => ¬ released sourceId := by
  obtain ⟨row,member,current,asked,stays⟩ := blocked
  exact ⟨row,repairs.kept row member current stays,current,asked,stays⟩

theorem acquire_named {devices : List DeviceRequest} {request : ClaimRequest} {later : Nat} {acquisition : Acquisition}
    (done : (acquire registry devices request now later).1 = .ok acquisition) :
    requestedKeys devices ≠ [] ∧ strip request.ownerId ≠ "" ∧ strip request.sourceId ≠ "" := by
  unfold acquire at done
  dsimp only at done
  split at done
  · cases done
  rename_i some
  split at done
  · cases done
  rename_i named
  rw [not_or] at named
  refine ⟨?_,named⟩
  intro none
  exact some (List.map_eq_nil_iff.mp none)

inductive Refenced (now : Nat) (registry : Registry) (devices : List DeviceRequest) (request : ClaimRequest) :
    Except ClaimError Acquisition × Registry → Prop
  | refused (error : ClaimError) : Refenced now registry devices request (.error error,registry)
  | blocked (held : List Claim) (owner : strip request.ownerId ≠ "")
      (blocked : Blocked now registry devices fun _ => True) :
      Refenced now registry devices request (.ok ⟨false,held⟩,registry)
  | granted (records : List Claim) (after : Registry) (valid : after.Valid) (swept : Swept now after)
      (repairs : Repairs now (fun _ => False) (fun sourceId => sourceId = strip request.sourceId) registry after)
      (held : HeldBy now after (strip request.sourceId))
      (holds : ∀ key ∈ requestedKeys devices, HoldsKey now after (strip request.sourceId) key) :
      Refenced now registry devices request (.ok ⟨true,records⟩,after)

theorem acquire_refenced (registry : Registry) (valid : registry.Valid) (devices : List DeviceRequest)
    (request : ClaimRequest) (now : Nat) (unheld : ¬ HeldBy now registry (strip request.sourceId)) :
    Refenced now registry devices request (acquire registry devices request now now) := by
  have acquired := acquire_acquired registry valid.keyed devices request now now
  have advances := acquire_advances registry valid.numbered devices request now now
  have named := @acquire_named now registry devices request now
  generalize acquire registry devices request now now = outcome at acquired advances named ⊢
  cases acquired with
  | refused error => exact .refused error
  | conflict held clash =>
    obtain ⟨row,listed⟩ := List.exists_mem_of_ne_nil _ clash
    obtain ⟨device,asked,found⟩ := List.mem_filterMap.mp listed
    obtain ⟨fetched,_⟩ := Option.filter_eq_some_iff.mp found
    have selected := Table.fetch_selects fetched
    have current := mem_sweep.mp ⟨Table.fetch_mem fetched,selected.2⟩
    exact .blocked held (named rfl).2.1
      ⟨row,current.1,current.2,List.mem_map.mpr ⟨device,asked,selected.1.symm⟩,trivial⟩
  | granted records news after free grant =>
    have vacant : ∀ row ∈ expire now registry.rows, row.status = .active → row.deviceKey ∉ requestedKeys devices := by
      intro row member active asked
      obtain ⟨named,_⟩ := conflicts_nil (expire_valid valid now).1.keyed free member active asked
      have current := mem_sweep.mp ⟨member,active⟩
      exact unheld ⟨row,current.1,current.2,named⟩
    have table : after.rows = expire now registry.rows++news := by
      rw [show after.rows = _ from grant.table]
      congr 1
      conv_rhs => rw [← List.map_id (expire now registry.rows)]
      apply List.map_congr_left
      intro row member
      exact if_neg fun asked => vacant row member asked.1 asked.2
    have later : now < expiresAt now request.ttlSeconds := by
      unfold expiresAt
      omega
    have holds : ∀ key ∈ requestedKeys devices, HoldsKey now after (strip request.sourceId) key := by
      intro key asked
      obtain ⟨row,new,same⟩ := grant.complete key asked fun row member named active =>
        vacant row member active (by rw [named]; exact asked)
      obtain ⟨issued,_⟩ := grant.issued row new
      refine ⟨row,?_,⟨issued.active,by rw [issued.expiresAt]; exact later⟩,issued.sourceId,same⟩
      rw [table]
      exact List.mem_append_right _ new
    refine .granted records after (advances.valid valid) ?_ ⟨?_,?_⟩ ?_ holds
    · intro row member active
      rw [table] at member
      rcases List.mem_append.mp member with old | new
      · exact (mem_sweep.mp ⟨old,active⟩).2.2
      · rw [(grant.issued row new).1.expiresAt]
        exact later
    · intro row member current _
      rw [table]
      exact List.mem_append_left _ (mem_sweep.mpr ⟨member,current⟩).1
    · intro row member current
      rw [table] at member
      rcases List.mem_append.mp member with old | new
      · exact .inl (mem_sweep.mp ⟨old,current.1⟩).1
      · exact .inr (grant.issued row new).1.sourceId
    · obtain ⟨key,asked⟩ := List.exists_mem_of_ne_nil _ (named rfl).1
      obtain ⟨row,member,current,source,_⟩ := holds key asked
      exact ⟨row,member,current,source⟩

theorem acquire_blocked {devices : List DeviceRequest} {request : ClaimRequest} {later : Nat} {stays : String → Prop}
    (owner : strip request.ownerId ≠ "") (source : strip request.sourceId ≠ "")
    (blocked : Blocked now registry devices stays) (unheld : ¬ HeldBy now registry (strip request.sourceId)) :
    ∃ held, acquire registry devices request now later = (.ok ⟨false,held⟩,registry) := by
  obtain ⟨row,member,current,asked,_⟩ := blocked
  obtain ⟨device,present,named⟩ := List.mem_map.mp asked
  have swept := mem_sweep.mpr ⟨member,current⟩
  obtain ⟨found,fetched⟩ := Table.fetch_isSome (fun row : Claim => row.deviceKey = device.deviceKey ∧ row.status = .active)
    swept.1 ⟨named.symm,swept.2⟩
  have selected := Table.fetch_selects fetched
  have holder := mem_sweep.mp ⟨Table.fetch_mem fetched,selected.2⟩
  have foreign : conflicting request found = true := by
    have other : found.sourceId ≠ strip request.sourceId := fun same => unheld ⟨found,holder.1,holder.2,same⟩
    simp [conflicting,other]
  have clash : conflicts (expire now registry.rows) request (normalizeDevices devices) ≠ [] := by
    have listed : found ∈ conflicts (expire now registry.rows) request (normalizeDevices devices) :=
      List.mem_filterMap.mpr ⟨device,present,Option.filter_eq_some_iff.mpr ⟨fetched,foreign⟩⟩
    exact List.ne_nil_of_mem listed
  refine ⟨conflicts (expire now registry.rows) request (normalizeDevices devices),?_⟩
  unfold acquire
  dsimp only
  rw [if_neg (List.ne_nil_of_mem present),if_neg (by simp [owner,source]),if_pos clash]

end GmsRemoteTest.DeviceClaims
