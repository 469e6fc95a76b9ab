import Mathlib.Data.List.Count
import GmsRemoteTest.Lib.Table

/-! Rows that are issued under a key, may be thrown away at any time, and are spent by a guarded update that marks the
unspent row of a key. Every row pays for at most one spending: a key issued once is spent at most once. -/
namespace OneShot

variable {Row Key : Type} [DecidableEq Key] (key : Row → Key) (used : Row → Bool)

/-- `WHERE key = ? AND used IS NULL`. -/
def fresh (k : Key) (row : Row) : Bool := key row = k && !used row

def spend (mark : Row → Row) (k : Key) (rows : List Row) : List Row :=
  Table.update (fun row => fresh key used k row = true) mark rows

def hits (k : Key) (rows : List Row) : Nat := rows.countP (fresh key used k)

/-- Unspent rows and spendings of a key are paid for by its issues. -/
structure Ledger (rows : List Row) (issued spent : List Key) : Prop where
  distinct : (rows.map key).Nodup
  paid : ∀ k, spent.count k + hits key used k rows ≤ issued.count k

variable {key used} {rows : List Row} {issued spent : List Key}

theorem Ledger.empty : Ledger key used [] [] [] := ⟨.nil,fun _ => Nat.le_refl _⟩

theorem Ledger.delete (ledger : Ledger key used rows issued spent) {left : List Row} (kept : left.Sublist rows) :
    Ledger key used left issued spent where
  distinct := ledger.distinct.sublist (kept.map key)
  paid k := Nat.le_trans (Nat.add_le_add_left (kept.countP_le) _) (ledger.paid k)

theorem Ledger.issue (ledger : Ledger key used rows issued spent) {row : Row} (free : key row ∉ rows.map key) :
    Ledger key used (rows++[row]) (issued++[key row]) spent where
  distinct := by
    rw [List.map_append,List.map_singleton]
    exact List.nodup_append_comm.mp (List.nodup_cons.mpr ⟨free,ledger.distinct⟩)
  paid k := by
    have before := ledger.paid k
    have one : List.countP (fresh key used k) [row] ≤ [key row].count k := by
      by_cases same : key row = k
      · rw [same,List.count_singleton_self]
        exact List.countP_le_length
      · simp [fresh,same]
    unfold hits at before ⊢
    rw [List.countP_append,List.count_append]
    omega

theorem hits_le_one (distinct : (rows.map key).Nodup) (k : Key) : hits key used k rows ≤ 1 := by
  calc rows.countP (fresh key used k) ≤ rows.countP (fun row => key row == k) := by
        apply List.countP_mono_left
        intro row _ is_fresh
        simp only [fresh,Bool.and_eq_true,decide_eq_true_eq] at is_fresh
        simpa using is_fresh.1
    _ = (rows.map key).count k := by rw [List.count_eq_countP,List.countP_map]; rfl
    _ ≤ 1 := List.nodup_iff_count_le_one.mp distinct k

variable {mark : Row → Row} (keeps : ∀ row, key (mark row) = key row) (marks : ∀ row, used (mark row) = true)

include keeps in
theorem spend_keys (k : Key) : (spend key used mark k rows).map key = rows.map key := by
  unfold spend Table.update
  rw [List.map_map]
  apply List.map_congr_left
  intro row _
  rw [Function.comp_apply]
  split
  · exact keeps row
  · rfl

include keeps marks in
theorem spend_hits (k other : Key) :
    hits key used other (spend key used mark k rows) = if other = k then 0 else hits key used other rows := by
  have kept : ∀ row, fresh key used other (if fresh key used k row then mark row else row) =
      (fresh key used other row && !decide (other = k)) := by
    intro row
    by_cases hit : fresh key used k row
    · have same : key row = k := by
        simp only [fresh,Bool.and_eq_true,decide_eq_true_eq] at hit
        exact hit.1
      rw [if_pos hit]
      by_cases asked : other = k
      · simp [fresh,marks,asked]
      · simp [fresh,keeps,marks,same,Ne.symm asked]
    · rw [if_neg hit]
      by_cases asked : other = k
      · subst asked
        simp [hit]
      · simp [asked]
  unfold hits spend Table.update
  rw [List.countP_map]
  split
  · rename_i asked
    rw [List.countP_eq_zero]
    intro row _
    rw [Function.comp_apply,kept]
    simp [asked]
  · rename_i asked
    apply List.countP_congr
    intro row _
    rw [Function.comp_apply,kept]
    simp [asked]

include keeps marks in
theorem Ledger.spend (ledger : Ledger key used rows issued spent) {k : Key} (hit : hits key used k rows = 1) :
    Ledger key used (spend key used mark k rows) issued (spent++[k]) where
  distinct := by
    rw [spend_keys keeps]
    exact ledger.distinct
  paid other := by
    have before := ledger.paid other
    rw [spend_hits keeps marks,List.count_append]
    split
    · rename_i asked
      subst asked
      rw [List.count_singleton_self]
      omega
    · rename_i asked
      rw [List.count_singleton]
      simp only [beq_iff_eq,Ne.symm asked,if_false]
      omega

theorem Ledger.miss (ledger : Ledger key used rows issued spent) {k : Key} (missed : hits key used k rows ≠ 1) (mark : Row → Row) :
    Ledger key used (OneShot.spend key used mark k rows) issued spent := by
  have zero : hits key used k rows = 0 := by
    have one : hits key used k rows ≤ 1 := hits_le_one ledger.distinct k
    omega
  have none := List.countP_eq_zero.mp zero
  have idle : OneShot.spend key used mark k rows = rows := by
    calc OneShot.spend key used mark k rows = rows.map id := List.map_congr_left fun row member => if_neg (none row member)
      _ = rows := List.map_id rows
  rw [idle]
  exact ledger

theorem Ledger.once (ledger : Ledger key used rows issued spent) (drawn : issued.Nodup) : spent.Nodup := by
  rw [List.nodup_iff_count_le_one]
  intro k
  have within := ledger.paid k
  have one := List.nodup_iff_count_le_one.mp drawn k
  omega

end OneShot
