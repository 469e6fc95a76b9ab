import GmsRemoteTest.Lib.HalfEven
import Mathlib.Analysis.Real.Sqrt

/-! Display frames over exact numbers: where HID points are on the display of a device, the HID point of a pixel, and the pixel of a named
control with the error that it bears. -/
namespace GmsRemoteTest.AoaDisplay

/-- A list of numbers, or what is none; a member is none that is no finite number. -/
abbrev Coordinates := Option (List (Option ℚ))

/-- What `rect` accepts. -/
structure Rect where
  left : ℚ
  top : ℚ
  right : ℚ
  bottom : ℚ
  fromLeft : 0 ≤ left
  fromTop : 0 ≤ top
  wide : left < right
  high : top < bottom
deriving DecidableEq

def rect (value : Coordinates) (normalized : Bool) : Except String Rect :=
  match value with
  | some [some left,some top,some right,some bottom] =>
    if sides : 0 ≤ left ∧ 0 ≤ top ∧ left < right ∧ top < bottom then
      if normalized ∧ 1 < max (max left top) (max right bottom) then .error "normalized display rectangle is outside 0..1"
      else .ok ⟨left,top,right,bottom,sides.1,sides.2.1,sides.2.2.1,sides.2.2.2⟩
    else .error "invalid display rectangle"
  | _ => .error "display rectangle requires four finite coordinates"

/-- A member of `range(4)`. -/
inductive Quarters
  | zero
  | one
  | two
  | three
deriving DecidableEq

def Quarters.ofInt : ℤ → Option Quarters
  | 0 => some .zero
  | 1 => some .one
  | 2 => some .two
  | 3 => some .three
  | _ => none

def Quarters.points (quarters : Quarters) (w h x y : ℚ) : ℚ × ℚ :=
  match quarters with
  | .zero => (x * w,y * h)
  | .one => (w - 1 - y * w,x * h)
  | .two => (w - 1 - x * w,h - 1 - y * h)
  | .three => (y * w,h - 1 - x * h)

def Quarters.transforms (quarters : Quarters) (w h px py : ℚ) : ℚ × ℚ :=
  match quarters with
  | .zero => (px / w,py / h)
  | .one => (py / h,(w - 1 - px) / w)
  | .two => ((w - 1 - px) / w,(h - 1 - py) / h)
  | .three => ((h - 1 - py) / h,px / w)

def viewportRect (display : ℚ × ℚ) (viewport : Coordinates) : Except String Rect :=
  match viewport with
  | none | some [] => rect (some [some 0,some 0,some display.1,some display.2]) false
  | some sides => rect (some sides) false

def standardPoint (u v : ℚ) (display : ℚ × ℚ) (axisRotation : ℤ) (viewport : Coordinates) : Except String (ℚ × ℚ) :=
  (viewportRect display viewport).bind fun view => match Quarters.ofInt axisRotation with
    | some quarters =>
      if display.1 < view.right ∨ display.2 < view.bottom then .error "invalid certified viewport or rotation"
      else
        let p := quarters.points (view.right - view.left) (view.bottom - view.top) (u / 361) (v / 641)
        .ok (view.left + p.1,view.top + p.2)
    | none => .error "invalid certified viewport or rotation"

def standardInverse (x y : ℚ) (display : ℚ × ℚ) (axisRotation : ℤ) (viewport : Coordinates) : Except String (Nat × Nat) :=
  (viewportRect display viewport).bind fun view =>
    if ¬(view.left ≤ x ∧ x < view.right ∧ view.right ≤ display.1 ∧ view.top ≤ y ∧ y < view.bottom ∧ view.bottom ≤ display.2) then
      .error "semantic target is outside the certified viewport"
    else match Quarters.ofInt axisRotation with
    | none => .error "invalid certified axis rotation"
    | some quarters =>
      let t := quarters.transforms (view.right - view.left) (view.bottom - view.top) (x - view.left) (y - view.top)
      let u := t.1 * 361
      let v := t.2 * 641
      let slack := 1 / 10 ^ 6
      if ¬(-slack ≤ u ∧ u ≤ 360 + slack ∧ -slack ≤ v ∧ v ≤ 640 + slack) then .error "semantic target is outside the reachable HID region"
      else .ok ((HalfEven.nearest u).toNat,(HalfEven.nearest v).toNat)

/-- A length `error + √square`. -/
structure Budget where
  error : ℚ
  square : ℚ

def Budget.exceeds (budget : Budget) (tolerance : ℚ) : Prop :=
  ¬(budget.error ≤ tolerance ∧ budget.square ≤ (tolerance - budget.error) ^ 2)

instance (budget : Budget) (tolerance : ℚ) : Decidable (budget.exceeds tolerance) := inferInstanceAs (Decidable ¬_)

def Quarters.turned (quarters : Quarters) (x y : ℚ) : ℚ × ℚ :=
  match quarters with
  | .zero => (x,y)
  | .one => (1 - y,x)
  | .two => (1 - x,1 - y)
  | .three => (y,1 - x)

def framed (frame : Rect) (display : ℚ × ℚ) (p : ℚ × ℚ) : ℚ × ℚ :=
  ((frame.left + p.1 * (frame.right - frame.left)) * display.1,(frame.top + p.2 * (frame.bottom - frame.top)) * display.2)

def targetPoint (point bounds frame : Coordinates) (display : ℚ × ℚ) (rotateQuarters : ℤ) (maxErrorPx : Budget) : Except String (ℚ × ℚ) :=
  (rect frame true).bind fun frame => (rect bounds true).bind fun bounds => match point with
    | some [some x,some y] =>
      if ¬(bounds.left < x ∧ x < bounds.right ∧ bounds.top < y ∧ y < bounds.bottom) then
        .error "semantic reference point must be inside its control bounds"
      else match Quarters.ofInt rotateQuarters with
      | none => .error "invalid explicit layout rotation"
      | some quarters =>
        let dx := min (x - bounds.left) (bounds.right - x)
        let dy := min (y - bounds.top) (bounds.bottom - y)
        let (dx,dy) := if rotateQuarters % 2 ≠ 0 then (dy,dx) else (dx,dy)
        let margin := dx * (frame.right - frame.left) * display.1
        let marginY := dy * (frame.bottom - frame.top) * display.2
        let tolerance := min 8 (min (margin / 2) (marginY / 2))
        if maxErrorPx.exceeds tolerance then .error "verified mapping error exceeds this control's safe click margin"
        else .ok (framed frame display (quarters.turned x y))
    | _ => .error "semantic target requires a normalized reference point"

variable {display : ℚ × ℚ} {axisRotation : ℤ} {viewport : Coordinates}

def Quarters.quantum (quarters : Quarters) (w h : ℚ) : ℚ × ℚ :=
  match quarters with
  | .zero | .two => (w / 361,h / 641)
  | .one | .three => (w / 641,h / 361)

theorem Quarters.points_near (quarters : Quarters) {w h px py u v error : ℚ} (wide : 0 < w) (high : 0 < h)
    (first : |u - (quarters.transforms w h px py).1 * 361| ≤ error) (second : |v - (quarters.transforms w h px py).2 * 641| ≤ error) :
    |(quarters.points w h (u / 361) (v / 641)).1 - px| ≤ (quarters.quantum w h).1 * error ∧
      |(quarters.points w h (u / 361) (v / 641)).2 - py| ≤ (quarters.quantum w h).2 * error := by
  have scale : ∀ {size unit at_ exact : ℚ} {hid real : ℚ}, 0 < size → 0 < unit → |hid - real| ≤ error →
      (at_ - exact = size / unit * (hid - real) ∨ at_ - exact = -(size / unit * (hid - real))) → |at_ - exact| ≤ size / unit * error := by
    intro size unit at_ exact hid real positive positive' near shape
    have same : |at_ - exact| = size / unit * |hid - real| := by
      obtain shape | shape := shape
      · rw [shape,abs_mul,abs_of_pos (div_pos positive positive')]
      · rw [shape,abs_neg,abs_mul,abs_of_pos (div_pos positive positive')]
    rw [same]
    exact mul_le_mul_of_nonneg_left near (div_pos positive positive').le
  have w_ := wide.ne'
  have h_ := high.ne'
  cases quarters with
  | zero =>
    refine ⟨scale wide (by norm_num) first (.inl ?_),scale high (by norm_num) second (.inl ?_)⟩
    all_goals
      simp only [points,transforms]
      field_simp
  | one =>
    refine ⟨scale wide (by norm_num) second (.inr ?_),scale high (by norm_num) first (.inl ?_)⟩
    all_goals simp only [points,transforms]
    · field_simp
      ring
    · field_simp
  | two =>
    refine ⟨scale wide (by norm_num) first (.inr ?_),scale high (by norm_num) second (.inr ?_)⟩
    all_goals
      simp only [points,transforms]
      field_simp
      ring
  | three =>
    refine ⟨scale wide (by norm_num) second (.inl ?_),scale high (by norm_num) first (.inr ?_)⟩
    all_goals simp only [points,transforms]
    · field_simp
    · field_simp
      ring

theorem nearest_slack {u : ℚ} {most : Nat} (low : -(1 / 10 ^ 6) ≤ u) (high : u ≤ most + 1 / 10 ^ 6) :
    (HalfEven.nearest u).toNat ≤ most ∧ |((HalfEven.nearest u).toNat : ℚ) - u| ≤ 1 / 2 := by
  norm_num at low high
  have above : 0 ≤ HalfEven.nearest u := HalfEven.le_nearest (by push_cast; linarith)
  have below : HalfEven.nearest u ≤ most := HalfEven.nearest_le (by push_cast; linarith)
  have cast : ((HalfEven.nearest u).toNat : ℚ) = HalfEven.nearest u := by
    rw [← Int.cast_natCast,Int.toNat_of_nonneg above]
  rw [cast]
  exact ⟨by omega,HalfEven.abs_nearest_sub u⟩

/-- A pixel has a HID point, whose own pixel is half a HID unit away at most on each axis. -/
structure Pointed (display : ℚ × ℚ) (axisRotation : ℤ) (viewport : Coordinates) (p : ℚ × ℚ) (hid : Nat × Nat) (cooked : ℚ × ℚ) : Prop where
  left : hid.1 ≤ 360
  right : hid.2 ≤ 640
  point : standardPoint hid.1 hid.2 display axisRotation viewport = .ok cooked
  near : ∃ view quarters, viewportRect display viewport = .ok view ∧ Quarters.ofInt axisRotation = some quarters ∧
    |cooked.1 - p.1| ≤ (quarters.quantum (view.right - view.left) (view.bottom - view.top)).1 / 2 ∧
    |cooked.2 - p.2| ≤ (quarters.quantum (view.right - view.left) (view.bottom - view.top)).2 / 2
  wide : 0 < display.1
  high : 0 < display.2

theorem standardPoint_eq {view : Rect} {quarters : Quarters} (seen : viewportRect display viewport = .ok view)
    (turned : Quarters.ofInt axisRotation = some quarters) (wide : view.right ≤ display.1) (high : view.bottom ≤ display.2) (u v : ℚ) :
    standardPoint u v display axisRotation viewport =
      .ok (view.left + (quarters.points (view.right - view.left) (view.bottom - view.top) (u / 361) (v / 641)).1,
        view.top + (quarters.points (view.right - view.left) (view.bottom - view.top) (u / 361) (v / 641)).2) := by
  unfold standardPoint
  rw [seen]
  dsimp only [Except.bind]
  rw [turned]
  exact if_neg (not_or.mpr ⟨not_lt.mpr wide,not_lt.mpr high⟩)

theorem standardInverse_ok {x y : ℚ} {hid : Nat × Nat} (inverse : standardInverse x y display axisRotation viewport = .ok hid) :
    ∃ cooked, Pointed display axisRotation viewport (x,y) hid cooked := by
  unfold standardInverse at inverse
  cases seen : viewportRect display viewport with
  | error failure =>
    rw [seen] at inverse
    cases inverse
  | ok view =>
    rw [seen] at inverse
    dsimp only [Except.bind] at inverse
    split at inverse
    · cases inverse
    rename_i inside
    simp only [not_not] at inside
    obtain ⟨_,_,wide,_,_,high⟩ := inside
    cases turned : Quarters.ofInt axisRotation with
    | none =>
      rw [turned] at inverse
      cases inverse
    | some quarters =>
      rw [turned] at inverse
      dsimp only at inverse
      split at inverse
      · cases inverse
      rename_i reachable
      cases inverse
      simp only [not_not] at reachable
      obtain ⟨low,top,low',top'⟩ := reachable
      obtain ⟨first,near⟩ := @nearest_slack _ 360 low (by exact_mod_cast top)
      obtain ⟨second,near'⟩ := @nearest_slack _ 640 low' (by exact_mod_cast top')
      have close := quarters.points_near (sub_pos.mpr view.wide) (sub_pos.mpr view.high) near near'
      have width : 0 < display.1 := (view.fromLeft.trans_lt view.wide).trans_le wide
      have height : 0 < display.2 := (view.fromTop.trans_lt view.high).trans_le high
      have same : ∀ a b c : ℚ, a + b - c = b - (c - a) := fun a b c => by ring
      refine ⟨_,first,second,standardPoint_eq seen turned wide high _ _,⟨view,quarters,seen,turned,?_,?_⟩,width,height⟩
      · rw [same]
        exact close.1.trans_eq (mul_one_div _ _)
      · rw [same]
        exact close.2.trans_eq (mul_one_div _ _)

structure Sides where
  left : ℚ
  top : ℚ
  right : ℚ
  bottom : ℚ

def Sides.Contain (sides : Sides) (landing : ℝ × ℝ) : Prop :=
  sides.left < landing.1 ∧ landing.1 < sides.right ∧ sides.top < landing.2 ∧ landing.2 < sides.bottom

noncomputable def distance (p q : ℝ × ℝ) : ℝ := Real.sqrt ((p.1 - q.1) ^ 2 + (p.2 - q.2) ^ 2)

noncomputable def distanceTo (landing : ℝ × ℝ) (p : ℚ × ℚ) : ℝ := distance landing (p.1,p.2)

/-- A point of a control that is twice a tolerance away from its sides. -/
structure Clear (sides : Sides) (p : ℚ × ℚ) (tolerance : ℚ) : Prop where
  left : 0 < p.1 - sides.left ∧ 2 * tolerance ≤ p.1 - sides.left
  right : 0 < sides.right - p.1 ∧ 2 * tolerance ≤ sides.right - p.1
  top : 0 < p.2 - sides.top ∧ 2 * tolerance ≤ p.2 - sides.top
  bottom : 0 < sides.bottom - p.2 ∧ 2 * tolerance ≤ sides.bottom - p.2

def squaredDistance (p q : ℚ × ℚ) : ℚ := (p.1 - q.1) ^ 2 + (p.2 - q.2) ^ 2

theorem Budget.exceeds_iff (budget : Budget) (tolerance : ℚ) :
    budget.exceeds tolerance ↔ (tolerance : ℝ) < budget.error + Real.sqrt budget.square := by
  have fits : budget.error ≤ tolerance ∧ budget.square ≤ (tolerance - budget.error) ^ 2 ↔
      (budget.error : ℝ) + Real.sqrt budget.square ≤ tolerance := by
    have cast : ((tolerance - budget.error : ℚ) : ℝ) = tolerance - budget.error := by push_cast; rfl
    constructor
    · rintro ⟨below,small⟩
      have root : Real.sqrt budget.square ≤ ((tolerance - budget.error : ℚ) : ℝ) :=
        Real.sqrt_le_iff.mpr ⟨by exact_mod_cast sub_nonneg.mpr below,by exact_mod_cast small⟩
      rw [cast] at root
      linarith
    · intro fit
      have root : Real.sqrt budget.square ≤ ((tolerance - budget.error : ℚ) : ℝ) := by
        rw [cast]
        linarith
      obtain ⟨nonneg,small⟩ := Real.sqrt_le_iff.mp root
      exact ⟨sub_nonneg.mp (by exact_mod_cast nonneg),by exact_mod_cast small⟩
  unfold Budget.exceeds
  rw [fits,not_le]

theorem Clear.contain {sides : Sides} {p cooked : ℚ × ℚ} {tolerance error : ℚ} (clear : Clear sides p tolerance)
    (fits : ¬Budget.exceeds ⟨error,squaredDistance p cooked⟩ tolerance) {landing : ℝ × ℝ} (lands : distanceTo landing cooked ≤ error) :
    sides.Contain landing := by
  rw [Budget.exceeds_iff,not_lt] at fits
  have cast : ((squaredDistance p cooked : ℚ) : ℝ) = ((p.1 : ℝ) - cooked.1) ^ 2 + ((p.2 : ℝ) - cooked.2) ^ 2 := by
    unfold squaredDistance
    push_cast
    rfl
  rw [cast] at fits
  unfold distanceTo distance at lands
  have near : |landing.1 - cooked.1| ≤ error := (Real.abs_le_sqrt (le_add_of_nonneg_right (sq_nonneg _))).trans lands
  have near' : |landing.2 - cooked.2| ≤ error := (Real.abs_le_sqrt (le_add_of_nonneg_left (sq_nonneg _))).trans lands
  have off := Real.abs_le_sqrt (le_add_of_nonneg_right (a := ((p.1 : ℝ) - cooked.1) ^ 2) (sq_nonneg ((p.2 : ℝ) - cooked.2)))
  have off' := Real.abs_le_sqrt (le_add_of_nonneg_left (a := ((p.2 : ℝ) - cooked.2) ^ 2) (sq_nonneg ((p.1 : ℝ) - cooked.1)))
  rw [abs_le] at near near' off off'
  have real : ∀ {gap : ℚ}, 0 < gap ∧ 2 * tolerance ≤ gap → (0 : ℝ) < (gap : ℝ) ∧ 2 * (tolerance : ℝ) ≤ (gap : ℝ) :=
    fun both => ⟨by exact_mod_cast both.1,by exact_mod_cast both.2⟩
  obtain ⟨left,left_⟩ := real clear.left
  obtain ⟨right,right_⟩ := real clear.right
  obtain ⟨top,top_⟩ := real clear.top
  obtain ⟨bottom,bottom_⟩ := real clear.bottom
  push_cast at left left_ right right_ top top_ bottom bottom_
  refine ⟨?_,?_,?_,?_⟩ <;> linarith

def Quarters.bounds (quarters : Quarters) (bounds : Rect) : Sides :=
  match quarters with
  | .zero => ⟨bounds.left,bounds.top,bounds.right,bounds.bottom⟩
  | .one => ⟨1 - bounds.bottom,bounds.left,1 - bounds.top,bounds.right⟩
  | .two => ⟨1 - bounds.right,1 - bounds.bottom,1 - bounds.left,1 - bounds.top⟩
  | .three => ⟨bounds.top,1 - bounds.right,bounds.bottom,1 - bounds.left⟩

def control (quarters : Quarters) (frame bounds : Rect) (display : ℚ × ℚ) : Sides :=
  let first := framed frame display ((quarters.bounds bounds).left,(quarters.bounds bounds).top)
  let last := framed frame display ((quarters.bounds bounds).right,(quarters.bounds bounds).bottom)
  ⟨first.1,first.2,last.1,last.2⟩

theorem Quarters.turned_margins (quarters : Quarters) (bounds : Rect) (x y : ℚ) :
    let dx := min (x - bounds.left) (bounds.right - x)
    let dy := min (y - bounds.top) (bounds.bottom - y)
    let p := quarters.turned x y
    let sides := quarters.bounds bounds
    min (p.1 - sides.left) (sides.right - p.1) = (if quarters = .one ∨ quarters = .three then dy else dx) ∧
      min (p.2 - sides.top) (sides.bottom - p.2) = (if quarters = .one ∨ quarters = .three then dx else dy) := by
  have flip : ∀ a b c : ℚ, min (1 - a - (1 - b)) (1 - c - (1 - a)) = min (a - c) (b - a) := by
    intro a b c
    rw [min_comm,sub_sub_sub_cancel_left,sub_sub_sub_cancel_left]
  cases quarters with
  | zero => exact ⟨rfl,rfl⟩
  | one => exact ⟨flip _ _ _,rfl⟩
  | two => exact ⟨flip _ _ _,flip _ _ _⟩
  | three => exact ⟨rfl,flip _ _ _⟩

theorem Quarters.ofInt_odd {quarters : Quarters} (turned : Quarters.ofInt axisRotation = some quarters) :
    axisRotation % 2 ≠ 0 ↔ quarters = .one ∨ quarters = .three := by
  unfold Quarters.ofInt at turned
  split at turned <;> cases turned <;> decide

theorem framed_clear {low high at_ margin scale base size : ℚ} (positive : 0 < size) (wide : 0 < scale)
    (margin_ : margin = min (at_ - low) (high - at_)) (some_ : 0 < margin) {tolerance : ℚ} (small : tolerance ≤ margin * scale * size / 2) :
    (0 < (base + at_ * scale) * size - (base + low * scale) * size ∧
      2 * tolerance ≤ (base + at_ * scale) * size - (base + low * scale) * size) ∧
    (0 < (base + high * scale) * size - (base + at_ * scale) * size ∧
      2 * tolerance ≤ (base + high * scale) * size - (base + at_ * scale) * size) := by
  have unit : 0 < scale * size := mul_pos wide positive
  have shape : ∀ a b : ℚ, (base + a * scale) * size - (base + b * scale) * size = (a - b) * (scale * size) := fun a b => by ring
  have bound : 2 * tolerance ≤ margin * (scale * size) := by
    rw [mul_assoc] at small
    linarith
  have more : ∀ gap : ℚ, margin ≤ gap → 0 < gap * (scale * size) ∧ 2 * tolerance ≤ gap * (scale * size) := by
    intro gap less
    exact ⟨mul_pos (some_.trans_le less) unit,bound.trans (mul_le_mul_of_nonneg_right less unit.le)⟩
  rw [shape,shape]
  rw [margin_] at more
  exact ⟨more _ (min_le_left _ _),more _ (min_le_right _ _)⟩

theorem control_clear {quarters : Quarters} {frame bounds : Rect} (wide : 0 < display.1) (high : 0 < display.2) {p : ℚ × ℚ} {mx my : ℚ}
    (first : min (p.1 - (quarters.bounds bounds).left) ((quarters.bounds bounds).right - p.1) = mx)
    (second : min (p.2 - (quarters.bounds bounds).top) ((quarters.bounds bounds).bottom - p.2) = my) (some_ : 0 < mx) (some' : 0 < my) :
    Clear (control quarters frame bounds display) (framed frame display p)
      (min 8 (min (mx * (frame.right - frame.left) * display.1 / 2) (my * (frame.bottom - frame.top) * display.2 / 2))) := by
  have least := min_le_right 8 (min (mx * (frame.right - frame.left) * display.1 / 2) (my * (frame.bottom - frame.top) * display.2 / 2))
  obtain ⟨left,right⟩ := framed_clear wide (sub_pos.mpr frame.wide) first.symm some_ (least.trans (min_le_left _ _))
  obtain ⟨top,bottom⟩ := framed_clear high (sub_pos.mpr frame.high) second.symm some' (least.trans (min_le_right _ _))
  exact ⟨left,right,top,bottom⟩

section target
variable {point bounds frame : Coordinates} {rotateQuarters : ℤ} {budget : Budget} {p : ℚ × ℚ}

theorem targetPoint_ok (found : targetPoint point bounds frame display rotateQuarters budget = .ok p) :
    ∃ frame_ bounds_ quarters x y, rect frame true = .ok frame_ ∧ rect bounds true = .ok bounds_ ∧
      Quarters.ofInt rotateQuarters = some quarters ∧ point = some [some x,some y] ∧ p = framed frame_ display (quarters.turned x y) ∧
      (0 < display.1 → 0 < display.2 → ∃ tolerance, ¬budget.exceeds tolerance ∧ Clear (control quarters frame_ bounds_ display) p tolerance) := by
  unfold targetPoint at found
  cases first : rect frame true with
  | error failure =>
    rw [first] at found
    cases found
  | ok frame_ =>
    rw [first] at found
    dsimp only [Except.bind] at found
    cases second : rect bounds true with
    | error failure =>
      rw [second] at found
      cases found
    | ok bounds_ =>
      rw [second] at found
      dsimp only at found
      split at found
      · rename_i x y
        split at found
        · cases found
        rename_i inside
        split at found
        · cases found
        rename_i quarters turned
        simp only [not_not] at inside
        obtain ⟨left,right,top,bottom⟩ := inside
        have dx := lt_min (sub_pos.mpr left) (sub_pos.mpr right)
        have dy := lt_min (sub_pos.mpr top) (sub_pos.mpr bottom)
        have margins := quarters.turned_margins bounds_ x y
        simp only [Quarters.ofInt_odd turned] at found
        by_cases odd : quarters = .one ∨ quarters = .three
        · simp only [if_pos odd] at found margins
          split at found
          · cases found
          rename_i fits
          cases found
          exact ⟨frame_,bounds_,quarters,x,y,rfl,rfl,turned,rfl,rfl,
            fun wide high => ⟨_,fits,control_clear wide high margins.1 margins.2 dy dx⟩⟩
        · simp only [if_neg odd] at found margins
          split at found
          · cases found
          rename_i fits
          cases found
          exact ⟨frame_,bounds_,quarters,x,y,rfl,rfl,turned,rfl,rfl,
            fun wide high => ⟨_,fits,control_clear wide high margins.1 margins.2 dx dy⟩⟩
      · cases found

end target

end GmsRemoteTest.AoaDisplay
