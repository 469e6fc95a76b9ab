import Mathlib.Algebra.BigOperators.Field
import Mathlib.Algebra.Order.BigOperators.Ring.Finset

/-! Gauss-Jordan elimination in place, with partial pivoting. Every step keeps the solutions of the system, so a system
that is solved has one solution, and a system with several is refused. -/
namespace GaussJordan

structure Row (n : Nat) (K : Type) where
  coefficients : Fin n → K
  value : K

abbrev System (n : Nat) (K : Type) := Fin n → Row n K

inductive Failure
  | singular
  | zeroDivision
deriving DecidableEq

section elimination
variable {n : Nat} {K : Type} [Field K] [LinearOrder K]

def divide (dividend divisor : K) : Except Failure K := if divisor = 0 then .error .zeroDivision else .ok (dividend / divisor)

def pivot (system : System n K) (column : Fin n) : Fin n :=
  (((List.finRange n).filter (column ≤ ·)).argmax fun row => |(system row).coefficients column|).getD column

def Row.subtract (row : Row n K) (column : Fin n) (factor : K) (other : Row n K) : Row n K where
  coefficients := fun col => if col < column then row.coefficients col else row.coefficients col - factor * other.coefficients col
  value := row.value - factor * other.value

def clearRow (column : Fin n) (system : System n K) (row : Fin n) : Except Failure (System n K) :=
  if row = column then .ok system
  else (divide ((system row).coefficients column) ((system column).coefficients column)).map fun factor =>
    Function.update system row ((system row).subtract column factor (system column))

def reduceColumn (threshold : K) (system : System n K) (column : Fin n) : Except Failure (System n K) :=
  if |(system (pivot system column)).coefficients column| < threshold then .error .singular
  else (List.finRange n).foldlM (clearRow column) fun row => system (Equiv.swap column (pivot system column) row)

def solve (threshold : K) (system : System n K) : Except Failure (Fin n → K) :=
  ((List.finRange n).foldlM (reduceColumn threshold) system).bind fun reduced =>
    if ∃ row, (reduced row).coefficients row = 0 then .error .zeroDivision
    else .ok fun row => (reduced row).value / (reduced row).coefficients row

end elimination

variable {n : Nat} {K : Type} [Field K]

def Row.Holds (row : Row n K) (x : Fin n → K) : Prop := ∑ col, row.coefficients col * x col = row.value

def System.Solves (system : System n K) (x : Fin n → K) : Prop := ∀ row, (system row).Holds x

def System.Reduced (system : System n K) (done : List (Fin n)) : Prop :=
  ∀ column ∈ done, (system column).coefficients column ≠ 0 ∧ ∀ row, row ≠ column → (system row).coefficients column = 0

theorem Row.holds_subtract {column : Fin n} {other row : Row n K} (clear : ∀ col, col < column → other.coefficients col = 0) (factor : K)
    {x : Fin n → K} (holds : other.Holds x) : (row.subtract column factor other).Holds x ↔ row.Holds x := by
  have entries : ∀ col, (row.subtract column factor other).coefficients col = row.coefficients col - factor * other.coefficients col := by
    intro col
    unfold Row.subtract
    dsimp only
    split
    · rename_i before
      rw [clear col before,mul_zero,sub_zero]
    · rfl
  have total : ∑ col, (row.subtract column factor other).coefficients col * x col =
      ∑ col, row.coefficients col * x col - factor * other.value := by
    rw [← show _ = other.value from holds,Finset.mul_sum,← Finset.sum_sub_distrib]
    refine Finset.sum_congr rfl fun col _ => ?_
    rw [entries]
    ring
  unfold Row.Holds
  rw [total]
  exact sub_left_inj

variable {system : System n K} {column : Fin n} {done : List (Fin n)}

theorem System.Reduced.exchange (reduced : system.Reduced done) {order : Equiv.Perm (Fin n)} (fixed : ∀ col ∈ done, order col = col) :
    System.Reduced (fun row => system (order row)) done := by
  intro col member
  obtain ⟨diagonal,zero⟩ := reduced col member
  refine ⟨by simpa only [fixed col member] using diagonal,fun row other => zero _ fun same => other ?_⟩
  rw [← fixed col member] at same
  exact order.injective same

theorem solves_exchange (order : Equiv.Perm (Fin n)) (x : Fin n → K) :
    System.Solves (fun row => system (order row)) x ↔ system.Solves x :=
  ⟨fun solves row => by simpa using solves (order.symm row),fun solves row => solves (order row)⟩

section elimination
variable [LinearOrder K]

theorem clearRows_ok {rows : List (Fin n)} (distinct : rows.Nodup) (nonzero : (system column).coefficients column ≠ 0) :
    rows.foldlM (clearRow column) system = .ok fun row =>
      if row ∈ rows ∧ row ≠ column then
        (system row).subtract column ((system row).coefficients column / (system column).coefficients column) (system column)
      else system row := by
  induction rows generalizing system with
  | nil => simp [pure,Except.pure]
  | cons first rows ih =>
    obtain ⟨fresh,distinct⟩ := List.nodup_cons.mp distinct
    rw [List.foldlM_cons]
    by_cases own : first = column
    · rw [clearRow,if_pos own]
      refine (ih distinct nonzero).trans (congrArg Except.ok (funext fun row => ?_))
      by_cases same : row = first
      · simp [same,own]
      · simp [same]
    · rw [clearRow,if_neg own,divide,if_neg nonzero]
      have kept : Function.update system first ((system first).subtract column
          ((system first).coefficients column / (system column).coefficients column) (system column)) column = system column :=
        Function.update_of_ne (Ne.symm own) ..
      have later := @ih (Function.update system first ((system first).subtract column
        ((system first).coefficients column / (system column).coefficients column) (system column))) distinct (by rw [kept]; exact nonzero)
      rw [kept] at later
      refine later.trans (congrArg Except.ok (funext fun row => ?_))
      by_cases same : row = first
      · subst same
        simp [fresh,own]
      · simp [same]

theorem column_le_pivot (system : System n K) (column : Fin n) : column ≤ pivot system column := by
  unfold pivot
  cases found : ((List.finRange n).filter (column ≤ ·)).argmax fun row => |(system row).coefficients column| with
  | none => exact le_refl _
  | some row => exact of_decide_eq_true (List.mem_filter.mp (List.argmax_mem found)).2

theorem clearRows_reduced (nonzero : (system column).coefficients column ≠ 0) (reduced : system.Reduced done)
    (all : ∀ col, col < column → col ∈ done) (before : ∀ col ∈ done, col < column) :
    ∃ result, (List.finRange n).foldlM (clearRow column) system = .ok result ∧ result.Reduced (column :: done) ∧
      ∀ x, result.Solves x ↔ system.Solves x := by
  have clear : ∀ col, col < column → (system column).coefficients col = 0 :=
    fun col less => (reduced col (all col less)).2 column less.ne'
  refine ⟨_,clearRows_ok (List.nodup_finRange n) nonzero,List.forall_mem_cons.mpr ⟨⟨?_,fun row other => ?_⟩,fun col member => ?_⟩,
    fun x => ?_⟩
  · simpa using nonzero
  · simp [other,Row.subtract,nonzero]
  · obtain ⟨diagonal,zero⟩ := reduced col member
    have less := before col member
    refine ⟨by simpa [less.ne,Row.subtract,less] using diagonal,fun row other => ?_⟩
    by_cases own : row = column
    · simpa [own] using clear col less
    · simpa [own,Row.subtract,less] using zero row other
  · have rows : ∀ row, row ≠ column → (system column).Holds x →
        (((system row).subtract column ((system row).coefficients column / (system column).coefficients column) (system column)).Holds x ↔
          (system row).Holds x) := fun row _ holds => Row.holds_subtract clear _ holds
    constructor
    · intro solves
      have own : (system column).Holds x := by simpa using solves column
      intro row
      by_cases same : row = column
      · exact same ▸ own
      · exact (rows row same own).mp (by simpa [same] using solves row)
    · intro solves row
      by_cases same : row = column
      · simpa [same] using solves column
      · simpa [same] using (rows row same (solves column)).mpr (solves row)

variable [IsStrictOrderedRing K] {threshold : K}

theorem reduceColumn_cases (positive : 0 < threshold) (reduced : system.Reduced done) (all : ∀ col, col < column → col ∈ done)
    (before : ∀ col ∈ done, col < column) :
    reduceColumn threshold system column = .error .singular ∨
    ∃ result, reduceColumn threshold system column = .ok result ∧ result.Reduced (column :: done) ∧
      ∀ x, result.Solves x ↔ system.Solves x := by
  unfold reduceColumn
  split
  · exact .inl rfl
  rename_i large
  have fixed : ∀ col ∈ done, Equiv.swap column (pivot system column) col = col := by
    intro col member
    have less := before col member
    exact Equiv.swap_apply_of_ne_of_ne less.ne (less.trans_le (column_le_pivot system column)).ne
  have nonzero : (system (Equiv.swap column (pivot system column) column)).coefficients column ≠ 0 := by
    rw [Equiv.swap_apply_left]
    intro zero
    rw [zero,abs_zero] at large
    exact large positive
  obtain ⟨result,ran,done_,same⟩ := clearRows_reduced nonzero (reduced.exchange fixed) all before
  exact .inr ⟨result,ran,done_,fun x => (same x).trans (solves_exchange _ x)⟩

theorem reduceColumns_cases (positive : 0 < threshold) {columns : List (Fin n)} (reduced : system.Reduced done)
    (sorted : columns.Pairwise (· < ·)) (before : ∀ col ∈ done, ∀ next ∈ columns, col < next) (all : ∀ col, col ∈ done ∨ col ∈ columns) :
    columns.foldlM (reduceColumn threshold) system = .error .singular ∨
    ∃ result, columns.foldlM (reduceColumn threshold) system = .ok result ∧ (∀ column, (result column).coefficients column ≠ 0 ∧
      ∀ row, row ≠ column → (result row).coefficients column = 0) ∧ ∀ x, result.Solves x ↔ system.Solves x := by
  induction columns generalizing system done with
  | nil =>
    refine .inr ⟨system,rfl,fun column => reduced column ?_,fun x => Iff.rfl⟩
    exact (all column).resolve_right List.not_mem_nil
  | cons column columns ih =>
    obtain ⟨first,sorted⟩ := List.pairwise_cons.mp sorted
    have smaller : ∀ col, col < column → col ∈ done := by
      intro col less
      obtain known | later := all col
      · exact known
      · obtain rfl | later := List.mem_cons.mp later
        · exact absurd less (lt_irrefl _)
        · exact absurd (first col later) less.asymm
    rw [List.foldlM_cons]
    obtain refused | ⟨next,ran,done_,same⟩ :=
      reduceColumn_cases positive reduced smaller fun col member => before col member column List.mem_cons_self
    · rw [refused]
      exact .inl rfl
    · rw [ran]
      obtain refused | ⟨result,ran,diagonal,same_⟩ := ih done_ sorted
        (List.forall_mem_cons.mpr ⟨first,fun col member next later => before col member next (List.mem_cons_of_mem _ later)⟩)
        (fun col => by simpa [or_assoc,or_left_comm] using all col)
      · exact .inl refused
      · exact .inr ⟨result,ran,diagonal,fun x => (same_ x).trans (same x)⟩

theorem solve_cases (positive : 0 < threshold) (system : System n K) :
    solve threshold system = .error .singular ∨
    ∃ x, solve threshold system = .ok x ∧ ∀ y, system.Solves y ↔ y = x := by
  unfold solve
  obtain refused | ⟨reduced,ran,diagonal,same⟩ := reduceColumns_cases positive
    (show system.Reduced [] from fun _ none => absurd none List.not_mem_nil) (List.pairwise_lt_finRange n) (fun _ none => absurd none List.not_mem_nil)
    (fun col => .inr (List.mem_finRange col))
  · rw [refused]
    exact .inl rfl
  · rw [ran]
    refine .inr ⟨_,if_neg fun zero => ?_,fun y => ?_⟩
    · obtain ⟨row,zero⟩ := zero
      exact (diagonal row).1 zero
    · have only : ∀ row, (reduced row).Holds y ↔ y row = (reduced row).value / (reduced row).coefficients row := by
        intro row
        unfold Row.Holds
        rw [Finset.sum_eq_single row (fun col _ other => by rw [(diagonal col).2 row other.symm,zero_mul])
          (fun absent => absurd (Finset.mem_univ row) absent),eq_div_iff (diagonal row).1,mul_comm]
      rw [← same]
      exact ⟨fun solves => funext fun row => (only row).mp (solves row),fun equal row => (only row).mpr (congrFun equal row)⟩

end elimination

end GaussJordan
