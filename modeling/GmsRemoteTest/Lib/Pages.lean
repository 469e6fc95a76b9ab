import Mathlib.Data.List.Sort

/-! Pages of a queue whose entries wait in the order of a key. When a page is served, every entry that was not on it has a
page less of entries ahead of it. -/
namespace Pages

variable {Entry Key : Type} [LinearOrder Key] (key : Entry → Key)

def ordered (entries : List Entry) : List Entry := entries.insertionSort fun first second => key first ≤ key second

def page (size : Nat) (entries : List Entry) : List Entry := (ordered key entries).take size

def ahead (entries : List Entry) (entry : Entry) : Nat := entries.countP fun other => key other < key entry

variable {key} {size : Nat} {entries rest : List Entry} {entry : Entry}

theorem mem_ordered : entry ∈ ordered key entries ↔ entry ∈ entries :=
  (List.perm_insertionSort _ entries).mem_iff

theorem length_ordered : (ordered key entries).length = entries.length := (List.perm_insertionSort _ entries).length_eq

theorem page_mem (member : entry ∈ page key size entries) : entry ∈ entries :=
  mem_ordered.mp (List.mem_of_mem_take member)

theorem nodup_ordered (distinct : entries.Nodup) : (ordered key entries).Nodup :=
  (List.perm_insertionSort _ entries).nodup_iff.mpr distinct

theorem nodup_page (distinct : entries.Nodup) : (page key size entries).Nodup :=
  (nodup_ordered distinct).sublist (List.take_sublist ..)

theorem ahead_ordered : ahead key (ordered key entries) entry = ahead key entries entry :=
  (List.perm_insertionSort _ entries).countP_eq _

theorem ahead_lt (member : entry ∈ entries) : ahead key entries entry < entries.length :=
  lt_of_le_of_ne List.countP_le_length fun all =>
    lt_irrefl _ (of_decide_eq_true (List.countP_eq_length.mp all entry member))

theorem ahead_append (later : ∀ other ∈ rest, key entry < key other) : ahead key (entries++rest) entry = ahead key entries entry := by
  have none : ahead key rest entry = 0 := List.countP_eq_zero.mpr fun other member before =>
    (later other member).not_gt (of_decide_eq_true before)
  rw [ahead,List.countP_append]
  exact congrArg (ahead key entries entry + ·) none

theorem ahead_of_not_mem (distinct : (entries.map key).Nodup) (member : entry ∈ entries) (off : entry ∉ page key size entries) :
    ahead key ((ordered key entries).drop size) entry + size = ahead key entries entry := by
  have sorted : (ordered key entries).Pairwise fun first second => key first ≤ key second :=
    List.pairwise_insertionSort (fun first second => key first ≤ key second) entries
  have apart : ((ordered key entries).map key).Nodup :=
    ((List.perm_insertionSort _ entries).map key).nodup_iff.mpr distinct
  have split : (ordered key entries).take size ++ (ordered key entries).drop size = ordered key entries := List.take_append_drop ..
  have there : entry ∈ (ordered key entries).drop size := by
    have listed : entry ∈ ordered key entries := mem_ordered.mpr member
    rw [← split] at listed
    exact (List.mem_append.mp listed).resolve_left off
  have long : ((ordered key entries).take size).length = size := by
    have := List.length_pos_of_mem there
    rw [List.length_drop] at this
    rw [List.length_take]
    omega
  have first : ahead key ((ordered key entries).take size) entry = size := by
    refine (List.countP_eq_length.mpr fun other taken => ?_).trans long
    rw [← split] at sorted apart
    rw [List.map_append] at apart
    have different := (List.nodup_append.mp apart).2.2 _ (List.mem_map_of_mem taken) _ (List.mem_map_of_mem there)
    exact decide_eq_true (lt_of_le_of_ne ((List.pairwise_append.mp sorted).2.2 other taken entry there) different)
  have whole := @List.countP_append _ (fun other => key other < key entry) ((ordered key entries).take size)
    ((ordered key entries).drop size)
  rw [split] at whole
  have total : ahead key entries entry = ahead key ((ordered key entries).take size) entry +
      ahead key ((ordered key entries).drop size) entry := ahead_ordered.symm.trans whole
  omega

theorem ahead_served (distinct : (entries.map key).Nodup) (nodup : rest.Nodup)
    (left : ∀ other, other ∈ rest ↔ other ∈ entries ∧ other ∉ page key size entries) (member : entry ∈ entries)
    (off : entry ∉ page key size entries) : ahead key rest entry + size = ahead key entries entry := by
  have unique : (ordered key entries).Nodup := nodup_ordered (distinct.of_map key)
  have split : (ordered key entries).take size ++ (ordered key entries).drop size = ordered key entries := List.take_append_drop ..
  have same : rest.Perm ((ordered key entries).drop size) := by
    refine (List.perm_ext_iff_of_nodup nodup (unique.sublist (List.drop_sublist ..))).mpr fun other => ?_
    have apart : (ordered key entries).take size ++ (ordered key entries).drop size |>.Nodup := split.symm ▸ unique
    have disjoint := (List.nodup_append.mp apart).2.2
    have listed : other ∈ entries ↔ other ∈ (ordered key entries).take size ∨ other ∈ (ordered key entries).drop size := by
      rw [← List.mem_append,split]
      exact mem_ordered.symm
    rw [left,listed]
    constructor
    · rintro ⟨inside,outside⟩
      exact inside.resolve_left outside
    · intro dropped
      exact ⟨.inr dropped,fun taken => disjoint other taken other dropped rfl⟩
  rw [← ahead_of_not_mem distinct member off]
  exact congrArg (· + size) (same.countP_eq _)

end Pages
