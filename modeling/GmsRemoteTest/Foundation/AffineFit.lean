import GmsRemoteTest.Lib.LeastSquares
import Mathlib.Algebra.BigOperators.Fin
import Mathlib.Tactic.FinCases
import Mathlib.Tactic.NormNum
import Mathlib.Tactic.Positivity

/-! `fit_affine` of the touch calibration over exact numbers: the matrix and the offset that it returns are the only ones with
the least sum of squared distances. -/
namespace GmsRemoteTest.AoaCalibration
open GaussJordan LeastSquares

inductive CalibrationError
  | value (message : String)
  | zeroDivision
deriving DecidableEq

def INVERTIBLE_DETERMINANT_MIN : ℚ := 1 / 10 ^ 9

abbrev Sample := (ℚ × ℚ) × (ℚ × ℚ)

abbrev AffineMatrix := ℚ × ℚ × ℚ × ℚ

abbrev Offset := ℚ × ℚ

def solve3 (matrix : Fin 3 → Fin 3 → ℚ) (rhs : Fin 3 → ℚ) : Except CalibrationError (ℚ × ℚ × ℚ) :=
  match solve INVERTIBLE_DETERMINANT_MIN fun row => ⟨matrix row,rhs row⟩ with
  | .ok x => .ok (x 0,x 1,x 2)
  | .error .singular => .error (.value "calibration points are collinear or degenerate")
  | .error .zeroDivision => .error .zeroDivision

/-- The sums that `fit_affine` accumulates. -/
structure Sums where
  uu : ℚ := 0
  uv : ℚ := 0
  vv : ℚ := 0
  u : ℚ := 0
  v : ℚ := 0
  ux : ℚ := 0
  vx : ℚ := 0
  x : ℚ := 0
  uy : ℚ := 0
  vy : ℚ := 0
  y : ℚ := 0

def Sums.add (sums : Sums) : Sample → Sums
  | ((u,v),(x,y)) => {
      uu := sums.uu + u * u
      uv := sums.uv + u * v
      vv := sums.vv + v * v
      u := sums.u + u
      v := sums.v + v
      ux := sums.ux + u * x
      vx := sums.vx + v * x
      x := sums.x + x
      uy := sums.uy + u * y
      vy := sums.vy + v * y
      y := sums.y + y }

def fitAffine (samples : List Sample) : Except CalibrationError (AffineMatrix × Offset) :=
  if samples.length < 3 then .error (.value "affine calibration needs at least 3 probe points")
  else
    let sums := samples.foldl Sums.add {}
    let normal := ![![sums.uu,sums.uv,sums.u],![sums.uv,sums.vv,sums.v],![sums.u,sums.v,samples.length]]
    (solve3 normal ![sums.ux,sums.vx,sums.x]).bind fun (a,b,tx) =>
      (solve3 normal ![sums.uy,sums.vy,sums.y]).map fun (c,d,ty) => ((a,b,c,d),(tx,ty))

def screenPoint : AffineMatrix × Offset → ℚ × ℚ → ℚ × ℚ
  | ((a,b,c,d),(tx,ty)), (u,v) => (a * u + b * v + tx,c * u + d * v + ty)

def squaredDistance (mapping : AffineMatrix × Offset) (sample : Sample) : ℚ :=
  ((screenPoint mapping sample.1).1 - sample.2.1) ^ 2 + ((screenPoint mapping sample.1).2 - sample.2.2) ^ 2

def squaredError (mapping : AffineMatrix × Offset) (samples : List Sample) : ℚ := (samples.map (squaredDistance mapping)).sum

/-- All HID points are on one line. -/
def Collinear (samples : List Sample) : Prop :=
  ∃ p q r : ℚ, (p ≠ 0 ∨ q ≠ 0) ∧ ∀ sample ∈ samples, p * sample.1.1 + q * sample.1.2 = r

def features (sample : Sample) : Fin 3 → ℚ := ![sample.1.1,sample.1.2,1]

theorem foldl_add (samples : List Sample) (sums : Sums) : samples.foldl Sums.add sums = {
    uu := sums.uu + (samples.map fun sample => sample.1.1 * sample.1.1).sum
    uv := sums.uv + (samples.map fun sample => sample.1.1 * sample.1.2).sum
    vv := sums.vv + (samples.map fun sample => sample.1.2 * sample.1.2).sum
    u := sums.u + (samples.map fun sample => sample.1.1).sum
    v := sums.v + (samples.map fun sample => sample.1.2).sum
    ux := sums.ux + (samples.map fun sample => sample.1.1 * sample.2.1).sum
    vx := sums.vx + (samples.map fun sample => sample.1.2 * sample.2.1).sum
    x := sums.x + (samples.map fun sample => sample.2.1).sum
    uy := sums.uy + (samples.map fun sample => sample.1.1 * sample.2.2).sum
    vy := sums.vy + (samples.map fun sample => sample.1.2 * sample.2.2).sum
    y := sums.y + (samples.map fun sample => sample.2.2).sum } := by
  induction samples generalizing sums with
  | nil => simp
  | cons sample samples ih =>
    rw [List.foldl_cons,ih]
    simp only [Sums.add,List.map_cons,List.sum_cons,add_assoc]

def cookedX (sample : Sample) : ℚ := sample.2.1

def cookedY (sample : Sample) : ℚ := sample.2.2

def xParameters : AffineMatrix × Offset → Fin 3 → ℚ
  | ((a,b,_,_),(tx,_)) => ![a,b,tx]

def yParameters : AffineMatrix × Offset → Fin 3 → ℚ
  | ((_,_,c,d),(_,ty)) => ![c,d,ty]

theorem parameters_inj {first second : AffineMatrix × Offset} (x : xParameters first = xParameters second)
    (y : yParameters first = yParameters second) : first = second := by
  obtain ⟨⟨a,b,c,d⟩,tx,ty⟩ := first
  obtain ⟨⟨a_,b_,c_,d_⟩,tx_,ty_⟩ := second
  have entry := fun col => congrFun x col
  have entry_ := fun col => congrFun y col
  have ha : a = a_ := entry 0
  have hb : b = b_ := entry 1
  have hx : tx = tx_ := entry 2
  have hc : c = c_ := entry_ 0
  have hd : d = d_ := entry_ 1
  have hy : ty = ty_ := entry_ 2
  rw [ha,hb,hx,hc,hd,hy]

theorem predict_features (x : Fin 3 → ℚ) (sample : Sample) :
    predict features x sample = x 0 * sample.1.1 + x 1 * sample.1.2 + x 2 := by
  simp [predict,features,Fin.sum_univ_three,mul_comm]

theorem squaredError_eq (mapping : AffineMatrix × Offset) (samples : List Sample) :
    squaredError mapping samples = cost features cookedX samples (xParameters mapping) + cost features cookedY samples (yParameters mapping) := by
  unfold squaredError cost
  rw [← List.sum_map_add]
  refine congrArg List.sum (List.map_congr_left fun sample _ => ?_)
  rw [predict_features,predict_features]
  rfl

theorem normal_eq (samples : List Sample) (target : Sample → ℚ) {rhs : Fin 3 → ℚ}
    (sums : rhs = ![(samples.map fun sample => sample.1.1 * target sample).sum,(samples.map fun sample => sample.1.2 * target sample).sum,
      (samples.map target).sum]) :
    (fun row => (⟨![![(samples.foldl Sums.add {}).uu,(samples.foldl Sums.add {}).uv,(samples.foldl Sums.add {}).u],
      ![(samples.foldl Sums.add {}).uv,(samples.foldl Sums.add {}).vv,(samples.foldl Sums.add {}).v],
      ![(samples.foldl Sums.add {}).u,(samples.foldl Sums.add {}).v,samples.length]] row,rhs row⟩ : Row 3 ℚ)) =
      normalEquations features target samples := by
  have entry : ∀ {first second : Sample → ℚ}, (∀ sample, first sample = second sample) →
      0 + (samples.map first).sum = (samples.map second).sum := by
    intro first second same
    rw [zero_add,funext same]
  rw [foldl_add,sums]
  funext row
  unfold normalEquations
  congr 1
  · funext col
    fin_cases row <;> fin_cases col
    · exact entry fun _ => rfl
    · exact entry fun _ => rfl
    · exact entry fun _ => (mul_one _).symm
    · exact entry fun _ => mul_comm ..
    · exact entry fun _ => rfl
    · exact entry fun _ => (mul_one _).symm
    · exact entry fun _ => (one_mul _).symm
    · exact entry fun _ => (one_mul _).symm
    · show (samples.length : ℚ) = (samples.map fun _ => (1 : ℚ) * 1).sum
      simp
  · fin_cases row
    · rfl
    · rfl
    · exact congrArg List.sum (List.map_congr_left fun _ _ => (one_mul _).symm)

theorem fitAffine_cases {samples : List Sample} (enough : 3 ≤ samples.length) :
    (∃ message, fitAffine samples = .error (.value message)) ∨
    ∃ mapping, fitAffine samples = .ok mapping ∧
      (∀ x, (normalEquations features cookedX samples).Solves x ↔ x = xParameters mapping) ∧
      ∀ y, (normalEquations features cookedY samples).Solves y ↔ y = yParameters mapping := by
  have positive : 0 < INVERTIBLE_DETERMINANT_MIN := by norm_num [INVERTIBLE_DETERMINANT_MIN]
  have vector : ∀ x : Fin 3 → ℚ, ![x 0,x 1,x 2] = x := by
    intro x
    funext col
    fin_cases col <;> rfl
  unfold fitAffine
  rw [if_neg (Nat.not_lt.mpr enough)]
  dsimp only
  unfold solve3
  rw [normal_eq samples cookedX (by rw [foldl_add]; simp only [zero_add]; rfl),
    normal_eq samples cookedY (by rw [foldl_add]; simp only [zero_add]; rfl)]
  obtain refused | ⟨x,solved,only⟩ := solve_cases positive (normalEquations features cookedX samples)
  · rw [refused]
    exact .inl ⟨_,rfl⟩
  · obtain refused | ⟨y,solved_,only_⟩ := solve_cases positive (normalEquations features cookedY samples)
    · rw [solved,refused]
      exact .inl ⟨_,rfl⟩
    · rw [solved,solved_]
      refine .inr ⟨((x 0,x 1,y 0,y 1),(x 2,y 2)),rfl,fun z => ?_,fun z => ?_⟩
      · exact (only z).trans (by rw [xParameters,vector])
      · exact (only_ z).trans (by rw [yParameters,vector])

/-- What is returned is the only mapping of least squared error, whatever the order of the samples, and the one that fits them where one
does; samples on one line are refused, and nothing is divided by zero. -/
theorem fitAffine_least {samples : List Sample} (enough : 3 ≤ samples.length) :
    (∀ mapping, fitAffine samples = .ok mapping →
      (∀ other, other ≠ mapping → squaredError mapping samples < squaredError other samples) ∧
      (∀ exact, (∀ sample ∈ samples, screenPoint exact sample.1 = sample.2) → mapping = exact)) ∧
    (∀ reordered, reordered.Perm samples → fitAffine reordered = fitAffine samples) ∧
    (Collinear samples → ∃ message, fitAffine samples = .error (.value message)) ∧
    fitAffine samples ≠ .error .zeroDivision := by
  refine ⟨fun mapping fit => ?_,fun reordered same => ?_,fun collinear => ?_,?_⟩
  · obtain ⟨message,refused⟩ | ⟨found,solved,onlyX,onlyY⟩ := fitAffine_cases enough
    · rw [refused] at fit
      cases fit
    · rw [solved] at fit
      cases fit
      refine ⟨fun other different => ?_,fun exact fits => ?_⟩
      · rw [squaredError_eq,squaredError_eq]
        by_cases x : xParameters other = xParameters mapping
        · have y : yParameters other ≠ yParameters mapping := fun y => different (parameters_inj x y)
          rw [x]
          exact (add_lt_add_iff_left _).mpr (cost_lt onlyY y)
        · by_cases y : yParameters other = yParameters mapping
          · rw [y]
            exact (add_lt_add_iff_right _).mpr (cost_lt onlyX x)
          · exact add_lt_add (cost_lt onlyX x) (cost_lt onlyY y)
      · have fitsX : (normalEquations features cookedX samples).Solves (xParameters exact) :=
          solves_of_fits fun sample member => (predict_features _ sample).trans (congrArg Prod.fst (fits sample member))
        have fitsY : (normalEquations features cookedY samples).Solves (yParameters exact) :=
          solves_of_fits fun sample member => (predict_features _ sample).trans (congrArg Prod.snd (fits sample member))
        exact parameters_inj ((onlyX _).mp fitsX).symm ((onlyY _).mp fitsY).symm
  · have sums : reordered.foldl Sums.add {} = samples.foldl Sums.add {} := by
      rw [foldl_add,foldl_add]
      congr 2 <;> exact (same.map _).sum_eq
    unfold fitAffine
    rw [sums,same.length_eq]
  · obtain refused | ⟨mapping,_,onlyX,_⟩ := fitAffine_cases enough
    · exact refused
    · obtain ⟨p,q,r,some,line⟩ := collinear
      refine absurd onlyX (not_only (w := ![p,q,-r]) (fun zero => ?_) (fun sample member => ?_) _)
      · have first : p = 0 := congrFun zero 0
        have second : q = 0 := congrFun zero 1
        exact some.elim (fun other => other first) fun other => other second
      · rw [predict_features,← line sample member]
        show p * sample.1.1 + q * sample.1.2 + -(p * sample.1.1 + q * sample.1.2) = 0
        ring
  · obtain ⟨message,refused⟩ | ⟨mapping,solved,_,_⟩ := fitAffine_cases enough
    · rw [refused]
      exact nofun
    · rw [solved]
      exact nofun

theorem fitAffine_least_display :
    fitAffine [((90,160),(180,320)),((270,160),(540,320)),((180,320),(360,640))] = .ok ((2,0,0,2),(0,0)) ∧
    ∀ other, other ≠ ((2,0,0,2),(0,0)) → squaredError ((2,0,0,2),(0,0)) [((90,160),(180,320)),((270,160),(540,320)),((180,320),(360,640))] <
      squaredError other [((90,160),(180,320)),((270,160),(540,320)),((180,320),(360,640))] := by
  have run : fitAffine [((90,160),(180,320)),((270,160),(540,320)),((180,320),(360,640))] = .ok ((2,0,0,2),(0,0)) := by decide +kernel
  exact ⟨run,((fitAffine_least (by decide)).1 _ run).1⟩

end GmsRemoteTest.AoaCalibration
