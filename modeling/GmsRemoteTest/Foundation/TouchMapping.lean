import GmsRemoteTest.Foundation.AffineFit
import GmsRemoteTest.Foundation.AoaProfile
import GmsRemoteTest.Lib.HalfEven
import Mathlib.Data.Rat.Floor
import Mathlib.Tactic.LinearCombination

/-! `TouchMapping`: the affine map from HID points to the screen of a device and back, the estimate of it from the size of a display,
and the conversion of a HID point of one device to another. -/
namespace GmsRemoteTest.AoaCalibration
open AoaProfile

inductive TouchMode
  | pointer
  | direct
deriving DecidableEq

/-- `MAPPING_POLICIES`; a policy that is not declared is none. -/
inductive MappingPolicy
  | estimated
  | pointerCalibrated
  | directUnverified
  | directCalibrated
  | directStandard
  | unsupported
deriving DecidableEq

inductive ContextValue
  | null
  | number (value : ℚ)
  | text (value : String)
  | numbers (values : List ℚ)
  | other (json : String)
deriving DecidableEq

/-- `validation` of a sample: absent or false, `True`, or another true value. -/
inductive SampleMark
  | training
  | validation
  | neither
deriving DecidableEq

structure SampleRecord where
  hid : ℚ × ℚ
  cooked : ℚ × ℚ
  mark : SampleMark
  rest : List (String × String) := []
deriving DecidableEq

def determinant : AffineMatrix → ℚ
  | (a,b,c,d) => a * d - b * c

/-- `TouchMapping`, whose matrix can be inverted. -/
structure TouchMapping where
  hidTouchMode : TouchMode
  matrix : AffineMatrix
  offset : Offset
  mappingPolicy : Option MappingPolicy := none
  samples : List SampleRecord := []
  rmsErrorPx : ℚ := 0
  maxErrorPx : ℚ := 0
  context : List (String × ContextValue) := []
  displayPixels : ℤ × ℤ := (0,0)
  invertible : INVERTIBLE_DETERMINANT_MIN ≤ |determinant matrix|
deriving DecidableEq

namespace TouchMapping

def hidToScreen (mapping : TouchMapping) (u v : ℚ) : ℚ × ℚ := screenPoint (mapping.matrix,mapping.offset) (u,v)

def inversePoint (mapping : TouchMapping) (x y : ℚ) : ℚ × ℚ :=
  let (a,b,c,d) := mapping.matrix
  let dx := x - mapping.offset.1
  let dy := y - mapping.offset.2
  ((d * dx - b * dy) / determinant mapping.matrix,(a * dy - c * dx) / determinant mapping.matrix)

def SLACK : ℚ := 1 / 10 ^ 6

def clamped (u : ℚ) (most : Nat) : Nat := (min (max (HalfEven.nearest u) 0) most).toNat

def screenToHid (mapping : TouchMapping) (x y : ℚ) (strict : Bool) : Except String (Nat × Nat) :=
  let (u,v) := mapping.inversePoint x y
  if strict ∧ ¬(-SLACK ≤ u ∧ u ≤ AOA_TOUCH_MAX_X + SLACK ∧ -SLACK ≤ v ∧ v ≤ AOA_TOUCH_MAX_Y + SLACK) then
    .error "AOA target point is outside the reachable HID region; recalibrate or adapt the profile"
  else .ok (clamped u AOA_TOUCH_MAX_X,clamped v AOA_TOUCH_MAX_Y)

def rotation (mapping : TouchMapping) : ContextValue := (mapping.context.lookup "rotation").getD (.number 0)

end TouchMapping

def perAxisMapping (displayWidth displayHeight : ℤ) (mode : TouchMode) (mappingPolicy : Option MappingPolicy) : Except String TouchMapping :=
  if displayWidth ≤ 0 ∨ displayHeight ≤ 0 then .error "display size must be positive"
  else
    let given := mappingPolicy.getD .directUnverified
    let policy := if mode = .pointer ∧ given = .directUnverified then .estimated else given
    if policy ∈ [.directStandard,.directCalibrated,.pointerCalibrated,.unsupported] then
      .error "per-axis estimate cannot claim a verified mapping policy"
    else
      let matrix : AffineMatrix := (displayWidth / (AOA_TOUCH_MAX_X + 1 : Nat),0,0,displayHeight / (AOA_TOUCH_MAX_Y + 1 : Nat))
      if invertible : INVERTIBLE_DETERMINANT_MIN ≤ |determinant matrix| then
        .ok {hidTouchMode := mode, matrix, offset := (0,0), mappingPolicy := some policy, displayPixels := (displayWidth,displayHeight), invertible}
      else .error "AOA calibration matrix is not invertible"

def rescale (source target : TouchMapping) (pixel : ℚ × ℚ) : ℚ × ℚ :=
  (pixel.1 * target.displayPixels.1 / source.displayPixels.1,pixel.2 * target.displayPixels.2 / source.displayPixels.2)

def convertPoint (source target : TouchMapping) (u v : ℤ) : Except String (Nat × Nat) :=
  let pixel := source.hidToScreen u v
  let (sw,sh) := source.displayPixels
  let (tw,th) := target.displayPixels
  if min (min sw sh) (min tw th) ≤ 0 then .error "missing display dimensions for AOA reprojection"
  else if source.rotation ≠ target.rotation then .error "AOA reprojection requires matching display rotation"
  else if ¬(0 ≤ u ∧ u ≤ AOA_TOUCH_MAX_X ∧ 0 ≤ v ∧ v ≤ AOA_TOUCH_MAX_Y ∧ -TouchMapping.SLACK ≤ pixel.1 ∧ pixel.1 < sw ∧
      -TouchMapping.SLACK ≤ pixel.2 ∧ pixel.2 < sh) then .error "AOA source point is outside the display or HID region"
  else target.screenToHid (rescale source target pixel).1 (rescale source target pixel).2 true

theorem determinant_ne_zero (mapping : TouchMapping) : determinant mapping.matrix ≠ 0 := by
  intro zero
  have large := mapping.invertible
  rw [zero,abs_zero] at large
  exact absurd large (by norm_num [INVERTIBLE_DETERMINANT_MIN])

theorem inversePoint_eq_iff (mapping : TouchMapping) (x y : ℚ) (hid : ℚ × ℚ) :
    mapping.inversePoint x y = hid ↔ mapping.hidToScreen hid.1 hid.2 = (x,y) := by
  have nonzero := determinant_ne_zero mapping
  obtain ⟨u,v⟩ := hid
  unfold TouchMapping.inversePoint TouchMapping.hidToScreen screenPoint
  obtain ⟨⟨a,b,c,d⟩,shape⟩ : ∃ matrix, mapping.matrix = matrix := ⟨_,rfl⟩
  obtain ⟨⟨tx,ty⟩,shift⟩ : ∃ offset, mapping.offset = offset := ⟨_,rfl⟩
  have det : determinant (a,b,c,d) = a * d - b * c := rfl
  rw [shape,det] at nonzero
  rw [shape,shift,det]
  dsimp only
  rw [Prod.mk.injEq,Prod.mk.injEq,div_eq_iff nonzero,div_eq_iff nonzero]
  constructor
  · rintro ⟨first,second⟩
    constructor
    · refine mul_left_cancel₀ nonzero ?_
      linear_combination -a * first - b * second
    · refine mul_left_cancel₀ nonzero ?_
      linear_combination -c * first - d * second
  · rintro ⟨first,second⟩
    constructor
    · linear_combination -d * first + b * second
    · linear_combination -a * second + c * first

end GmsRemoteTest.AoaCalibration
