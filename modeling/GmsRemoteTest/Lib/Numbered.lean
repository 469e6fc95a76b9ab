import Mathlib.Data.List.Basic

/-! Rows that carry a number, at most one row for each number: a row whose number is taken is
ignored. A log written in batches under consecutive numbers stays without gaps, and a batch that
is sent again under numbers it already has changes nothing. -/
namespace Numbered

variable {Row : Type} (number : Row → Nat)

def insert (rows : List Row) (row : Row) : List Row :=
  if ∃ old ∈ rows, number old = number row then rows else rows++[row]

def Dense (rows : List Row) : Prop := rows.map number = List.range rows.length

def From (start : Nat) (batch : List Row) : Prop := batch.map number = List.range' start batch.length

def Agrees (rows batch : List Row) : Prop := ∀ row ∈ batch, ∀ old ∈ rows, number old = number row → old = row

variable {number} {rows batch : List Row} {start : Nat}

instance [DecidableEq Row] : Decidable (Agrees number rows batch) :=
  inferInstanceAs (Decidable (∀ row ∈ batch, ∀ old ∈ rows, number old = number row → old = row))

theorem dense_nil : Dense number ([] : List Row) := rfl

theorem Dense.getElem (dense : Dense number rows) (i : Nat) (bound : i < rows.length) : number rows[i] = i := by
  have same : (rows.map number)[i]? = (List.range rows.length)[i]? := by rw [dense]
  simpa [bound] using same

theorem From.getElem (numbered : From number start batch) (i : Nat) (bound : i < batch.length) :
    number batch[i] = start+i := by
  have same : (batch.map number)[i]? = (List.range' start batch.length)[i]? := by rw [numbered]
  simpa [bound] using same

theorem Dense.taken (dense : Dense number rows) (value : Nat) :
    (∃ old ∈ rows, number old = value) ↔ value < rows.length := by
  have same : value ∈ rows.map number ↔ value ∈ List.range rows.length := by rw [dense]
  simpa using same

theorem From.cons {row : Row} (numbered : From number start (row::batch)) :
    number row = start ∧ From number (start+1) batch := by
  simpa [From,List.range'_succ] using numbered

theorem Dense.append (dense : Dense number rows) (numbered : From number rows.length batch) :
    Dense number (rows++batch) := by
  rw [Dense,List.map_append,dense,numbered,List.length_append,List.range_eq_range',List.range_eq_range']
  have joined : List.range' 0 rows.length ++ List.range' (0+rows.length) batch.length =
      List.range' 0 (rows.length+batch.length) := List.range'_append_1
  simpa using joined

theorem From.append {second : List Row} (left : From number start batch)
    (right : From number (start+batch.length) second) : From number start (batch++second) := by
  rw [From,List.map_append,left,right,List.length_append]
  exact List.range'_append_1

section
variable (dense : Dense number rows) (numbered : From number start batch) (inside : start ≤ rows.length)
include dense numbered inside

theorem foldl_insert :
    batch.foldl (insert number) rows = rows ++ batch.drop (rows.length-start) := by
  induction batch generalizing rows start with
  | nil => simp
  | cons row batch ih =>
    obtain ⟨first,rest⟩ := numbered.cons
    rw [List.foldl_cons]
    by_cases taken : start < rows.length
    · have ignored : insert number rows row = rows := if_pos (first ▸ (dense.taken _).mpr (first ▸ taken))
      have later : rows.length-start = rows.length-(start+1)+1 := by omega
      rw [ignored,ih dense rest taken,later,List.drop_succ_cons]
    · have last : start = rows.length := by omega
      have fresh : ¬ ∃ old ∈ rows, number old = number row := by
        rw [dense.taken,first]
        exact taken
      have added : insert number rows row = rows++[row] := if_neg fresh
      have grown : Dense number (rows++[row]) := by
        apply dense.append
        simp [From,first,last]
      have bound : start+1 ≤ (rows++[row]).length := by simp [last]
      rw [added,ih grown rest bound]
      simp [last]

theorem Dense.foldl_insert :
    Dense number (batch.foldl (insert number) rows) := by
  rw [Numbered.foldl_insert dense numbered inside]
  apply dense.append
  have kept := congrArg (List.drop (rows.length-start)) numbered
  rw [← List.map_drop,List.drop_range'] at kept
  rw [From,kept,List.length_drop]
  by_cases beyond : rows.length-start < batch.length
  · congr 1
    omega
  · simp [Nat.sub_eq_zero_of_le (Nat.le_of_not_lt beyond)]

end

theorem Agrees.take_foldl_insert (agrees : Agrees number rows batch) (dense : Dense number rows)
    (numbered : From number start batch) (inside : start ≤ rows.length) :
    (batch.foldl (insert number) rows).take (start+batch.length) = rows.take start ++ batch := by
  rw [Numbered.foldl_insert dense numbered inside]
  apply List.ext_getElem
  · simp
    omega
  · intro i left right
    have bound : i < start+batch.length := by simp at left; omega
    rw [List.getElem_take]
    by_cases stored : i < rows.length
    · rw [List.getElem_append_left stored]
      by_cases before : i < start
      · rw [List.getElem_append_left (by simp; omega),List.getElem_take]
      · have within : i-start < batch.length := by omega
        rw [List.getElem_append_right (by simp; omega)]
        have same : number rows[i] = number batch[i-start] := by
          rw [dense.getElem i stored,numbered.getElem (i-start) within]
          omega
        have equal := agrees _ (List.getElem_mem within) _ (List.getElem_mem stored) same
        rw [equal]
        congr 1
        simp
        omega
    · rw [List.getElem_append_right (by omega),List.getElem_append_right (by simp; omega),List.getElem_drop]
      congr 1
      simp
      omega

theorem foldl_max_range' (count start bound : Nat) (low : bound < start) :
    (List.range' start count).foldl max bound = if count = 0 then bound else start + count - 1 := by
  induction count generalizing start bound with
  | zero => rfl
  | succ count ih =>
    rw [List.range'_succ,List.foldl_cons,Nat.max_eq_right (Nat.le_of_lt low),ih (start+1) start (Nat.lt_succ_self _),
      if_neg (Nat.succ_ne_zero count)]
    split <;> omega

theorem From.next (numbered : From number 1 rows) : (rows.map number).foldl max 0 + 1 = rows.length + 1 := by
  rw [numbered,foldl_max_range' _ _ _ Nat.zero_lt_one]
  split <;> omega

end Numbered
