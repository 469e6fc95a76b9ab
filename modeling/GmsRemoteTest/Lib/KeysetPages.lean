import GmsRemoteTest.Lib.Pages

/-! Pages that go on behind the key of the last entry served. The table may grow between two pages; one entry more than a page is
looked up, to know whether a further page follows. -/
namespace KeysetPages
open Pages

variable {Entry Key : Type} [LinearOrder Key] (key : Entry → Key)

def beyond (cursor : Option Key) (entries : List Entry) : List Entry := entries.filter fun entry => ∀ last ∈ cursor, last < key entry

def served (size : Nat) (cursor : Option Key) (entries : List Entry) : List Entry := page key size (beyond key cursor entries)

def more (size : Nat) (cursor : Option Key) (entries : List Entry) : Bool := size < (beyond key cursor entries).length

def traverse (size : Nat) (tables : Nat → List Entry) : Nat → Nat → Option Key → Option (List Entry)
  | 0, _, _ => none
  | fuel + 1, n, cursor =>
    let items := served key size cursor (tables n)
    if more key size cursor (tables n) then
      (traverse size tables fuel (n + 1) (items.getLast?.map key)).map (items ++ ·)
    else some items

variable {key} {size : Nat} {cursor : Option Key} {entries : List Entry} {entry : Entry}

theorem mem_beyond : entry ∈ beyond key cursor entries ↔ entry ∈ entries ∧ ∀ last ∈ cursor, last < key entry := by
  simp [beyond]

theorem served_mem (member : entry ∈ served key size cursor entries) : entry ∈ entries ∧ ∀ last ∈ cursor, last < key entry :=
  mem_beyond.mp (page_mem member)

section
variable (distinct : (entries.map key).Nodup)
include distinct

theorem ordered_sorted : (ordered key entries).Pairwise fun first second => key first < key second := by
  have sorted : (ordered key entries).Pairwise fun first second => key first ≤ key second := List.pairwise_insertionSort _ entries
  have keys : ((ordered key entries).map key).Nodup := ((List.perm_insertionSort _ entries).map key).nodup_iff.mpr distinct
  exact (sorted.and (List.pairwise_map.mp keys)).imp fun both => lt_of_le_of_ne both.1 both.2

theorem distinct_beyond : ((beyond key cursor entries).map key).Nodup :=
  distinct.sublist (List.filter_sublist.map key)

theorem served_sorted :
    (served key size cursor entries).Pairwise fun first second => key first < key second :=
  (ordered_sorted (distinct_beyond distinct)).sublist (List.take_sublist ..)

end

theorem served_all (last : more key size cursor entries = false) (member : entry ∈ entries) (ahead : ∀ last ∈ cursor, last < key entry) :
    entry ∈ served key size cursor entries := by
  have short : (ordered key (beyond key cursor entries)).length ≤ size := by
    rw [length_ordered]
    exact Nat.le_of_not_lt (of_decide_eq_false last)
  unfold served page
  rw [List.take_of_length_le short]
  exact mem_ordered.mpr (mem_beyond.mpr ⟨member,ahead⟩)

theorem served_last (distinct : (entries.map key).Nodup) (positive : 0 < size) (follows : more key size cursor entries = true) :
    ∃ last, (served key size cursor entries).getLast? = some last ∧ last ∈ served key size cursor entries ∧
      (∀ other ∈ served key size cursor entries, key other ≤ key last) ∧
      ∀ other ∈ beyond key cursor entries, other ∉ served key size cursor entries → key last < key other := by
  have sorted := ordered_sorted (@distinct_beyond Entry Key _ key cursor entries distinct)
  have long : size < (ordered key (beyond key cursor entries)).length := by
    rw [length_ordered]
    exact of_decide_eq_true follows
  have split : served key size cursor entries ++ (ordered key (beyond key cursor entries)).drop size =
    ordered key (beyond key cursor entries) := List.take_append_drop ..
  have all : ∀ other ∈ beyond key cursor entries, other ∈ ordered key (beyond key cursor entries) := fun _ => mem_ordered.mpr
  have some_ : served key size cursor entries ≠ [] := fun none => by
    have length : (served key size cursor entries).length = size := List.length_take_of_le long.le
    rw [none] at length
    exact absurd length (Nat.ne_of_lt positive)
  generalize (ordered key (beyond key cursor entries)).drop size = rest at split
  rw [← split] at sorted all
  rw [List.pairwise_append] at sorted
  obtain ⟨inside,_,across⟩ := sorted
  refine ⟨_,List.getLast?_eq_some_getLast some_,List.getLast_mem some_,fun other member => ?_,fun other member outside => ?_⟩
  · have ends := List.dropLast_append_getLast some_
    rw [← ends] at member inside
    rcases List.mem_append.mp member with before | last
    · exact ((List.pairwise_append.mp inside).2.2 other before _ (List.mem_singleton.mpr rfl)).le
    · exact (List.mem_singleton.mp last ▸ le_rfl)
  · exact across _ (List.getLast_mem some_) other ((List.mem_append.mp (all other member)).resolve_left outside)

def passed (key : Entry → Key) (cursor : Option Key) (entries : List Entry) : Nat :=
  entries.countP fun entry => ∃ last ∈ cursor, key entry ≤ last

theorem passed_lt (member : entry ∈ entries) (ahead : ∀ last ∈ cursor, last < key entry) :
    passed key cursor entries < passed key (some (key entry)) entries := by
  have further : ∀ other : Entry, (∃ last ∈ cursor, key other ≤ last) → ∃ last ∈ some (key entry), key other ≤ last := by
    rintro other ⟨last,known,upto⟩
    exact ⟨_,rfl,(lt_of_le_of_lt upto (ahead last known)).le⟩
  have more : ∀ part : List Entry, passed key cursor part ≤ passed key (some (key entry)) part := fun part =>
    List.countP_mono_left fun other _ before => decide_eq_true (further other (of_decide_eq_true before))
  have first : ¬∃ last ∈ cursor, key entry ≤ last := fun ⟨last,known,upto⟩ => absurd (ahead last known) (not_lt.mpr upto)
  obtain ⟨front,back,rfl⟩ := List.append_of_mem member
  have left := more front
  have right := more back
  unfold passed at left right ⊢
  rw [List.countP_append,List.countP_append,List.countP_cons_of_neg (by simpa using first),List.countP_cons_of_pos (by simp)]
  omega

section
variable {tables : Nat → List Entry} {fuel n : Nat} {all : List Entry}

theorem traverse_sorted (distinct : ∀ n, ((tables n).map key).Nodup) (positive : 0 < size)
    (done : traverse key size tables fuel n cursor = some all) :
    all.Pairwise (fun first second => key first < key second) ∧ ∀ entry ∈ all, ∀ last ∈ cursor, last < key entry := by
  induction fuel generalizing n cursor all with
  | zero => cases done
  | succ fuel ih =>
    unfold traverse at done
    dsimp only at done
    have inside := fun entry (member : entry ∈ served key size cursor (tables n)) => (served_mem member).2
    cases follows : more key size cursor (tables n) with
    | false =>
      rw [follows] at done
      cases done
      exact ⟨served_sorted (distinct n),inside⟩
    | true =>
      rw [follows,if_pos rfl] at done
      obtain ⟨last,ends,there,upto,_⟩ := served_last (distinct n) positive follows
      obtain ⟨rest,further,rfl⟩ := Option.map_eq_some_iff.mp done
      rw [ends] at further
      obtain ⟨sorted,behind⟩ := ih further
      refine ⟨List.pairwise_append.mpr ⟨served_sorted (distinct n),sorted,fun first member second listed => ?_⟩,fun entry member => ?_⟩
      · exact lt_of_le_of_lt (upto first member) (behind second listed _ rfl)
      · rcases List.mem_append.mp member with page | later
        · exact inside entry page
        · intro before known
          exact lt_trans (inside last there before known) (behind entry later _ rfl)

theorem traverse_mem (done : traverse key size tables fuel n cursor = some all) (member : entry ∈ all) :
    ∃ m, n ≤ m ∧ entry ∈ tables m := by
  induction fuel generalizing n cursor all with
  | zero => cases done
  | succ fuel ih =>
    unfold traverse at done
    dsimp only at done
    cases follows : more key size cursor (tables n) with
    | false =>
      rw [follows] at done
      cases done
      exact ⟨n,Nat.le_refl n,(served_mem member).1⟩
    | true =>
      rw [follows,if_pos rfl] at done
      obtain ⟨rest,further,rfl⟩ := Option.map_eq_some_iff.mp done
      rcases List.mem_append.mp member with page | later
      · exact ⟨n,Nat.le_refl n,(served_mem page).1⟩
      · obtain ⟨m,after,there⟩ := ih further later
        exact ⟨m,Nat.le_of_succ_le after,there⟩

theorem traverse_serves (distinct : ∀ n, ((tables n).map key).Nodup) (positive : 0 < size)
    (done : traverse key size tables fuel n cursor = some all) (stays : ∀ m, n ≤ m → entry ∈ tables m)
    (ahead : ∀ last ∈ cursor, last < key entry) : entry ∈ all := by
  induction fuel generalizing n cursor all with
  | zero => cases done
  | succ fuel ih =>
    unfold traverse at done
    dsimp only at done
    have member := stays n (Nat.le_refl n)
    cases follows : more key size cursor (tables n) with
    | false =>
      rw [follows] at done
      cases done
      exact served_all follows member ahead
    | true =>
      rw [follows,if_pos rfl] at done
      obtain ⟨last,ends,_,_,outside⟩ := served_last (distinct n) positive follows
      obtain ⟨rest,further,rfl⟩ := Option.map_eq_some_iff.mp done
      rw [ends] at further
      by_cases page : entry ∈ served key size cursor (tables n)
      · exact List.mem_append_left _ page
      · refine List.mem_append_right _ (ih further (fun m later => stays m (Nat.le_of_succ_le later)) fun before known => ?_)
        cases known
        exact outside entry (mem_beyond.mpr ⟨member,ahead⟩) page

theorem traverse_ends (distinct : ∀ n, ((tables n).map key).Nodup) (positive : 0 < size)
    (grows : ∀ n, (tables n).Sublist (tables (n + 1))) {bound : Nat} (bounded : ∀ n, (tables n).length ≤ bound)
    (enough : bound < fuel + passed key cursor (tables n)) : (traverse key size tables fuel n cursor).isSome := by
  induction fuel generalizing n cursor with
  | zero =>
    have counted : passed key cursor (tables n) ≤ (tables n).length := List.countP_le_length
    have most := bounded n
    omega
  | succ fuel ih =>
    unfold traverse
    dsimp only
    cases follows : more key size cursor (tables n) with
    | false => rfl
    | true =>
      rw [if_pos rfl,Option.isSome_map]
      obtain ⟨last,ends,there,_,_⟩ := served_last (distinct n) positive follows
      rw [ends]
      obtain ⟨member,ahead⟩ := served_mem there
      refine ih ?_
      have next : passed key cursor (tables n) < passed key (some (key last)) (tables n) := passed_lt member ahead
      have later : passed key (some (key last)) (tables n) ≤ passed key (some (key last)) (tables (n + 1)) := (grows n).countP_le
      show bound < fuel + passed key (some (key last)) (tables (n + 1))
      omega

end

end KeysetPages
