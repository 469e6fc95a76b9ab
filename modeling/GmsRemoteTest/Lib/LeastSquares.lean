import GmsRemoteTest.Lib.GaussJordan

/-! Linear least squares. The normal equations have the minimisers of the sum of squares as their solutions; where they have
one solution only, it is the one minimiser. -/
namespace LeastSquares
open GaussJordan

section equations
variable {n : Nat} {K α : Type} [Field K] (features : α → Fin n → K) (target : α → K) (samples : List α)

def predict (x : Fin n → K) (sample : α) : K := ∑ col, features sample col * x col

def cost (x : Fin n → K) : K := (samples.map fun sample => (predict features x sample - target sample) ^ 2).sum

def normalEquations : System n K := fun row =>
  ⟨fun col => (samples.map fun sample => features sample row * features sample col).sum,
    (samples.map fun sample => features sample row * target sample).sum⟩

variable {features target samples}

theorem predict_sub (x y : Fin n → K) (sample : α) :
    predict features (x - y) sample = predict features x sample - predict features y sample := by
  unfold predict
  rw [← Finset.sum_sub_distrib]
  exact Finset.sum_congr rfl fun col _ => mul_sub ..

theorem sum_features (weight : α → K) (x : Fin n → K) :
    ∑ col, (samples.map fun sample => features sample col * weight sample).sum * x col =
      (samples.map fun sample => predict features x sample * weight sample).sum := by
  induction samples with
  | nil => simp
  | cons sample samples ih =>
    simp only [List.map_cons,List.sum_cons,add_mul,Finset.sum_add_distrib,ih]
    congr 1
    unfold predict
    rw [Finset.sum_mul]
    exact Finset.sum_congr rfl fun col _ => by ring

theorem solves_iff (x : Fin n → K) : (normalEquations features target samples).Solves x ↔
    ∀ row, (samples.map fun sample => features sample row * (predict features x sample - target sample)).sum = 0 := by
  refine forall_congr' fun row => ?_
  have left : ∑ col, (samples.map fun sample => features sample row * features sample col).sum * x col =
      (samples.map fun sample => features sample row * predict features x sample).sum := by
    simpa [mul_comm] using @sum_features n K α _ features samples (fun sample => features sample row) x
  have split : (samples.map fun sample => features sample row * predict features x sample).sum =
      (samples.map fun sample => features sample row * (predict features x sample - target sample)).sum +
        (samples.map fun sample => features sample row * target sample).sum := by
    rw [← List.sum_map_add]
    exact congrArg List.sum (List.map_congr_left fun sample _ => by ring)
  unfold normalEquations Row.Holds
  dsimp only
  rw [left,split,add_eq_right]

theorem solves_of_fits {x : Fin n → K} (fits : ∀ sample ∈ samples, predict features x sample = target sample) :
    (normalEquations features target samples).Solves x := by
  refine (solves_iff x).mpr fun row => List.sum_eq_zero fun value member => ?_
  obtain ⟨sample,inside,rfl⟩ := List.mem_map.mp member
  rw [fits sample inside,sub_self,mul_zero]

theorem cost_eq {x : Fin n → K} (solves : (normalEquations features target samples).Solves x) (y : Fin n → K) :
    cost features target samples y = cost features target samples x + (samples.map fun sample => predict features (y - x) sample ^ 2).sum := by
  have orthogonal : (samples.map fun sample => predict features (y - x) sample * (predict features x sample - target sample)).sum = 0 := by
    rw [← sum_features]
    exact Finset.sum_eq_zero fun row _ => by rw [(solves_iff x).mp solves row,zero_mul]
  have square : ∀ sample, (predict features y sample - target sample) ^ 2 =
      (predict features x sample - target sample) ^ 2 + (2 * (predict features (y - x) sample * (predict features x sample - target sample)) +
        predict features (y - x) sample ^ 2) := by
    intro sample
    rw [predict_sub]
    ring
  unfold cost
  rw [List.map_congr_left fun sample _ => square sample,List.sum_map_add,List.sum_map_add,List.sum_map_mul_left,orthogonal,mul_zero,zero_add]

end equations

section order
variable {n : Nat} {K α : Type} [Field K] [LinearOrder K] [IsStrictOrderedRing K] {features : α → Fin n → K} {target : α → K} {samples : List α}

theorem cost_lt {x : Fin n → K} (only : ∀ y, (normalEquations features target samples).Solves y ↔ y = x) {y : Fin n → K} (other : y ≠ x) :
    cost features target samples x < cost features target samples y := by
  have solves := (only x).mpr rfl
  rw [cost_eq solves y,lt_add_iff_pos_right]
  have squares : ∀ value ∈ samples.map fun sample => predict features (y - x) sample ^ 2, 0 ≤ value := by
    intro value member
    obtain ⟨sample,_,rfl⟩ := List.mem_map.mp member
    exact sq_nonneg _
  refine lt_of_le_of_ne (List.sum_nonneg squares) fun zero => other ((only y).mp ?_)
  have same : ∀ sample ∈ samples, predict features y sample = predict features x sample := by
    intro sample inside
    have none := List.all_zero_of_le_zero_le_of_sum_eq_zero squares zero.symm (List.mem_map_of_mem inside)
    rw [predict_sub] at none
    exact sub_eq_zero.mp (pow_eq_zero_iff two_ne_zero |>.mp none)
  refine (solves_iff y).mpr fun row => ?_
  rw [← (solves_iff x).mp solves row]
  exact congrArg List.sum (List.map_congr_left fun sample inside => by rw [same sample inside])

theorem not_only {w : Fin n → K} (nonzero : w ≠ 0) (ignored : ∀ sample ∈ samples, predict features w sample = 0) (x : Fin n → K) :
    ¬∀ y, (normalEquations features target samples).Solves y ↔ y = x := by
  intro only
  refine nonzero (add_eq_left.mp ((only (x + w)).mp ((solves_iff _).mpr fun row => ?_)))
  rw [← (solves_iff x).mp ((only x).mpr rfl) row]
  refine congrArg List.sum (List.map_congr_left fun sample inside => ?_)
  have same := @predict_sub n K α _ features (x + w) x sample
  rw [add_sub_cancel_left,ignored sample inside] at same
  rw [sub_eq_zero.mp same.symm]

end order

end LeastSquares
