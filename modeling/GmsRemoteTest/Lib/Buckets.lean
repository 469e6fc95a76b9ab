import Mathlib.Data.List.Induction
import Mathlib.Data.List.Nodup

/-! Items gathered under their keys, as `groups.setdefault(key, record)` and an append do it: the buckets stand in the order in which their
keys come first, each with the record of its first item. -/
namespace Buckets

structure Item (κ ρ α : Type) where
  key : κ
  record : ρ
  member : α

structure Bucket (κ ρ α : Type) where
  key : κ
  record : ρ
  members : List α

variable {κ ρ α : Type} [DecidableEq κ]

def Bucket.of (item : Item κ ρ α) : Bucket κ ρ α := ⟨item.key,item.record,[item.member]⟩

def add (item : Item κ ρ α) : List (Bucket κ ρ α) → List (Bucket κ ρ α)
  | [] => [.of item]
  | bucket :: buckets =>
    if bucket.key = item.key then {bucket with members := bucket.members ++ [item.member]} :: buckets else bucket :: add item buckets

def gather (items : List (Item κ ρ α)) : List (Bucket κ ρ α) := items.foldl (fun buckets item => add item buckets) []

section
variable {item : Item κ ρ α} {buckets : List (Bucket κ ρ α)}

theorem add_absent (absent : item.key ∉ buckets.map Bucket.key) :
    add item buckets = buckets ++ [.of item] := by
  induction buckets with
  | nil => rfl
  | cons bucket buckets ih =>
    rw [List.map_cons,List.mem_cons,not_or] at absent
    unfold add
    rw [if_neg (Ne.symm absent.1),ih absent.2,List.cons_append]

theorem add_keys (present : item.key ∈ buckets.map Bucket.key) :
    (add item buckets).map Bucket.key = buckets.map Bucket.key := by
  induction buckets with
  | nil => cases present
  | cons bucket buckets ih =>
    unfold add
    split
    · rfl
    · rename_i other
      rw [List.map_cons,List.map_cons,ih ((List.mem_cons.mp present).resolve_left (Ne.symm other))]

theorem mem_add (distinct : (buckets.map Bucket.key).Nodup)
    (present : item.key ∈ buckets.map Bucket.key) {bucket : Bucket κ ρ α} (member : bucket ∈ add item buckets) :
    (bucket.key ≠ item.key ∧ bucket ∈ buckets) ∨
      ∃ before ∈ buckets, before.key = item.key ∧ bucket = {before with members := before.members ++ [item.member]} := by
  induction buckets with
  | nil => cases present
  | cons first buckets ih =>
    rw [List.map_cons,List.nodup_cons] at distinct
    unfold add at member
    split at member
    · rename_i same
      obtain rfl | later := List.mem_cons.mp member
      · exact .inr ⟨first,List.mem_cons_self,same,rfl⟩
      · have other : bucket.key ≠ item.key := fun again => distinct.1 (same ▸ again ▸ List.mem_map_of_mem later)
        exact .inl ⟨other,List.mem_cons_of_mem _ later⟩
    · rename_i other
      obtain rfl | later := List.mem_cons.mp member
      · exact .inl ⟨other,List.mem_cons_self⟩
      · obtain ⟨apart,kept⟩ | ⟨before,held,same,extended⟩ :=
          ih distinct.2 ((List.mem_cons.mp present).resolve_left (Ne.symm other)) later
        · exact .inl ⟨apart,List.mem_cons_of_mem _ kept⟩
        · exact .inr ⟨before,List.mem_cons_of_mem _ held,same,extended⟩

end

theorem add_members (item : Item κ ρ α) (buckets : List (Bucket κ ρ α)) :
    ((add item buckets).flatMap Bucket.members).Perm (buckets.flatMap Bucket.members ++ [item.member]) := by
  induction buckets with
  | nil => exact .refl _
  | cons bucket buckets ih =>
    unfold add
    split
    · rw [List.flatMap_cons,List.flatMap_cons,List.append_assoc,List.append_assoc]
      exact List.perm_append_comm.append_left _
    · rw [List.flatMap_cons,List.flatMap_cons,List.append_assoc]
      exact ih.append_left _

structure Gathered (items : List (Item κ ρ α)) (buckets : List (Bucket κ ρ α)) : Prop where
  keys : (buckets.map Bucket.key).Nodup
  found : ∀ item ∈ items, item.key ∈ buckets.map Bucket.key
  members : ∀ bucket ∈ buckets, bucket.members = (items.filter (·.key = bucket.key)).map Item.member
  record : ∀ bucket ∈ buckets, (items.find? (·.key = bucket.key)).map Item.record = some bucket.record
  all : (buckets.flatMap Bucket.members).Perm (items.map Item.member)

variable {items : List (Item κ ρ α)} {buckets : List (Bucket κ ρ α)}

theorem Gathered.add (gathered : Gathered items buckets) (item : Item κ ρ α) : Gathered (items ++ [item]) (Buckets.add item buckets) := by
  have all : ((Buckets.add item buckets).flatMap Bucket.members).Perm ((items ++ [item]).map Item.member) := by
    rw [List.map_append]
    exact (add_members item buckets).trans (gathered.all.append_right _)
  have earlier : ∀ bucket ∈ buckets, ((items ++ [item]).find? (·.key = bucket.key)).map Item.record = some bucket.record := by
    intro bucket held
    have before := gathered.record bucket held
    rw [List.find?_append]
    cases found : items.find? (·.key = bucket.key) with
    | none => simp [found] at before
    | some first => simpa [found] using before
  have apart : ∀ bucket ∈ buckets, bucket.key ≠ item.key → bucket.members = ((items ++ [item]).filter (·.key = bucket.key)).map Item.member := by
    intro bucket held other
    rw [List.filter_append,List.filter_cons_of_neg (by simpa using Ne.symm other),List.filter_nil,List.append_nil]
    exact gathered.members bucket held
  by_cases present : item.key ∈ buckets.map Bucket.key
  · have keys := add_keys present
    refine ⟨keys ▸ gathered.keys,fun other member => ?_,fun bucket member => ?_,fun bucket member => ?_,all⟩
    · rw [keys]
      obtain before | last := List.mem_append.mp member
      · exact gathered.found other before
      · rwa [List.mem_singleton.mp last]
    · obtain ⟨other,held⟩ | ⟨before,held,same,rfl⟩ := mem_add gathered.keys present member
      · exact apart bucket held other
      · dsimp only
        rw [List.filter_append,List.map_append,gathered.members before held,List.filter_cons_of_pos (by simpa using same.symm)]
        rfl
    · obtain ⟨-,held⟩ | ⟨before,held,-,rfl⟩ := mem_add gathered.keys present member
      · exact earlier bucket held
      · exact earlier before held
  · have none_ : ∀ other ∈ items, ¬decide (other.key = item.key) = true := by
      intro other member same
      exact present (of_decide_eq_true same ▸ gathered.found other member)
    have grown := add_absent present
    refine ⟨?_,fun other member => ?_,fun bucket member => ?_,fun bucket member => ?_,all⟩
    · rw [grown,List.map_append,List.nodup_append]
      refine ⟨gathered.keys,List.nodup_singleton _,fun key held last member => ?_⟩
      rintro rfl
      have same : key = item.key := List.mem_singleton.mp member
      exact present (same ▸ held)
    · rw [grown,List.map_append]
      obtain before | last := List.mem_append.mp member
      · exact List.mem_append_left _ (gathered.found other before)
      · exact List.mem_append_right _ (List.mem_singleton.mpr (congrArg Item.key (List.mem_singleton.mp last)))
    · rw [grown] at member
      obtain held | last := List.mem_append.mp member
      · exact apart bucket held fun same => present (same ▸ List.mem_map_of_mem held)
      · obtain rfl := List.mem_singleton.mp last
        show [item.member] = ((items ++ [item]).filter (·.key = item.key)).map Item.member
        rw [List.filter_append,List.filter_eq_nil_iff.mpr none_]
        simp
    · rw [grown] at member
      obtain held | last := List.mem_append.mp member
      · exact earlier bucket held
      · obtain rfl := List.mem_singleton.mp last
        show ((items ++ [item]).find? (·.key = item.key)).map Item.record = some item.record
        rw [List.find?_append,List.find?_eq_none.mpr none_]
        simp

theorem gather_gathered (items : List (Item κ ρ α)) : Gathered items (gather items) := by
  unfold gather
  induction items using List.reverseRecOn with
  | nil => exact ⟨List.nodup_nil,fun _ member => (List.not_mem_nil member).elim,fun _ member => (List.not_mem_nil member).elim,
      fun _ member => (List.not_mem_nil member).elim,.refl _⟩
  | append_singleton items item ih =>
    rw [List.foldl_append]
    exact ih.add item

section
variable (gathered : Gathered items buckets) {bucket : Bucket κ ρ α} (held : bucket ∈ buckets)
include gathered held

theorem Gathered.mem_members {member : α} :
    member ∈ bucket.members ↔ ∃ item ∈ items, item.key = bucket.key ∧ item.member = member := by
  rw [gathered.members bucket held]
  simp [and_assoc]

theorem Gathered.first :
    ∃ item ∈ items, item.key = bucket.key ∧ item.record = bucket.record := by
  have record := gathered.record bucket held
  cases found : items.find? (·.key = bucket.key) with
  | none => simp [found] at record
  | some first =>
    rw [found] at record
    exact ⟨first,List.mem_of_find?_eq_some found,of_decide_eq_true (List.find?_some found :),Option.some.inj record⟩

end

theorem Gathered.bucket (gathered : Gathered items buckets) {item : Item κ ρ α} (held : item ∈ items) :
    ∃ bucket ∈ buckets, bucket.key = item.key := List.mem_map.mp (gathered.found item held)

section
variable {τ : Type} (view : ρ → τ)

def Item.map (item : Item κ ρ α) : Item κ τ α := ⟨item.key,view item.record,item.member⟩

def Bucket.map (bucket : Bucket κ ρ α) : Bucket κ τ α := ⟨bucket.key,view bucket.record,bucket.members⟩

theorem add_map (item : Item κ ρ α) (buckets : List (Bucket κ ρ α)) :
    Buckets.add (item.map view) (buckets.map (Bucket.map view)) = (Buckets.add item buckets).map (Bucket.map view) := by
  induction buckets with
  | nil => rfl
  | cons bucket buckets ih =>
    by_cases same : bucket.key = item.key
    · have left : (bucket.map view).key = (item.map view).key := same
      rw [List.map_cons,Buckets.add,Buckets.add,if_pos left,if_pos same]
      rfl
    · have left : (bucket.map view).key ≠ (item.map view).key := same
      rw [List.map_cons,Buckets.add,Buckets.add,if_neg left,if_neg same,ih,List.map_cons]

theorem gather_map (items : List (Item κ ρ α)) : gather (items.map (Item.map view)) = (gather items).map (Bucket.map view) := by
  unfold gather
  induction items using List.reverseRecOn with
  | nil => rfl
  | append_singleton items item ih =>
    rw [List.map_append,List.foldl_append,List.foldl_append,ih]
    exact add_map view item _

end

end Buckets
