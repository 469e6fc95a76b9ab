import Mathlib.Data.String.Basic

/-! Dates and times of day without an offset, in the calendar of `datetime`: their texts in ISO format, which have a
fixed width and so are ordered as the times are, and going back by a number of seconds. -/
namespace Calendar

def isLeap (year : Nat) : Bool := year % 4 = 0 && (year % 100 ≠ 0 || year % 400 = 0)

def daysInMonth (year month : Nat) : Nat :=
  if month = 2 then if isLeap year then 29 else 28
  else if month = 4 ∨ month = 6 ∨ month = 9 ∨ month = 11 then 30 else 31

def daysBeforeYear (year : Nat) : Nat := (year - 1) * 365 + (year - 1) / 4 - (year - 1) / 100 + (year - 1) / 400

def daysBeforeMonth (year : Nat) : Nat → Nat
  | 0 => 0
  | 1 => 0
  | month + 1 => daysBeforeMonth year month + daysInMonth year month

structure Date where
  year : Nat
  month : Nat
  day : Nat
  years : 1 ≤ year ∧ year ≤ 9999
  months : 1 ≤ month ∧ month ≤ 12
  days : 1 ≤ day ∧ day ≤ daysInMonth year month

structure DateTime where
  date : Date
  second : Nat
  within : second < 86400

def Date.toOrdinal (date : Date) : Nat := daysBeforeYear date.year + daysBeforeMonth date.year date.month + date.day

def DateTime.seconds (time : DateTime) : Nat := time.date.toOrdinal * 86400 + time.second

def digit (value : Nat) : Char := Char.ofNat (48 + value)

def pad : Nat → Nat → List Char
  | 0, _ => []
  | width + 1, value => digit (value / 10 ^ width) :: pad width (value % 10 ^ width)

def DateTime.isoformat (time : DateTime) : List Char :=
  pad 4 time.date.year ++ '-' :: (pad 2 time.date.month ++ '-' :: (pad 2 time.date.day ++ 'T' ::
    (pad 2 (time.second / 3600) ++ ':' :: (pad 2 (time.second / 60 % 60) ++ ':' :: pad 2 (time.second % 60)))))

def Date.previous (date : Date) : Option Date :=
  if day : 1 < date.day then some {date with day := date.day - 1, days := by have := date.days; omega}
  else if month : 1 < date.month then some {date with
    month := date.month - 1, day := daysInMonth date.year (date.month - 1)
    months := by have := date.months; omega
    days := by
      refine ⟨?_,Nat.le_refl _⟩
      unfold daysInMonth
      split_ifs <;> omega}
  else if year : 1 < date.year then some {
    year := date.year - 1, month := 12, day := 31
    years := by have := date.years; omega
    months := by decide
    days := by simp [daysInMonth]}
  else none

def Date.back : Nat → Date → Option Date
  | 0, date => some date
  | count + 1, date => date.previous.bind (back count)

def DateTime.minus (time : DateTime) (span : Nat) : Option DateTime :=
  let days := (span + 86399 - time.second) / 86400
  (time.date.back days).map fun date => ⟨date,(time.second + days * 86400 - span) % 86400,Nat.mod_lt _ (by decide)⟩

def Date.Before (first second : Date) : Prop :=
  first.year < second.year ∨ first.year = second.year ∧
    (first.month < second.month ∨ first.month = second.month ∧ first.day < second.day)

theorem Date.before_cases (first second : Date) : first.Before second ∨ first = second ∨ second.Before first := by
  obtain ⟨year,month,day,_,_,_⟩ := first
  obtain ⟨year',month',day',_,_,_⟩ := second
  simp only [Date.Before,Date.mk.injEq]
  omega

theorem isLeap_iff (year : Nat) : isLeap year = true ↔ year % 4 = 0 ∧ (year % 100 ≠ 0 ∨ year % 400 = 0) := by
  simp [isLeap]

theorem succ_div (value divisor : Nat) : (value + 1) / divisor = value / divisor + if (value + 1) % divisor = 0 then 1 else 0 := by
  rw [Nat.succ_div]
  simp only [Nat.dvd_iff_mod_eq_zero]

theorem daysBeforeYear_succ {year : Nat} (first : 1 ≤ year) :
    daysBeforeYear (year + 1) = daysBeforeYear year + 337 + daysInMonth year 2 := by
  obtain ⟨before,rfl⟩ : ∃ before, year = before + 1 := ⟨year - 1,by omega⟩
  have centuries : before / 100 ≤ before / 4 := Nat.div_le_div_left (by decide) (by decide)
  have four := succ_div before 4
  have hundred := succ_div before 100
  have whole := succ_div before 400
  have hundreds : (before + 1) % 100 = 0 → (before + 1) % 4 = 0 := by omega
  have wholes : (before + 1) % 400 = 0 → (before + 1) % 100 = 0 := by omega
  have leap := isLeap_iff (before + 1)
  unfold daysBeforeYear daysInMonth
  rw [if_pos rfl,Nat.add_sub_cancel,Nat.add_sub_cancel,four,hundred,whole]
  by_cases isFour : (before + 1) % 4 = 0
  · by_cases isHundred : (before + 1) % 100 = 0
    · by_cases isWhole : (before + 1) % 400 = 0
      · simp only [if_pos isFour,if_pos isHundred,if_pos isWhole,if_pos (leap.mpr ⟨isFour,.inr isWhole⟩)]
        omega
      · simp only [if_pos isFour,if_pos isHundred,if_neg isWhole,
          if_neg fun holds => (leap.mp holds).2.elim (· isHundred) isWhole]
        omega
    · simp only [if_pos isFour,if_neg isHundred,if_neg fun holds => isHundred (wholes holds),
        if_pos (leap.mpr ⟨isFour,.inl isHundred⟩)]
      omega
  · simp only [if_neg isFour,if_neg fun holds => isFour (hundreds holds),if_neg fun holds => isFour (hundreds (wholes holds)),
      if_neg fun holds => isFour (leap.mp holds).1]
    omega

theorem daysBeforeMonth_succ {month : Nat} (year : Nat) (first : 1 ≤ month) :
    daysBeforeMonth year (month + 1) = daysBeforeMonth year month + daysInMonth year month := by
  cases month with
  | zero => cases first
  | succ month => rfl

theorem daysBeforeMonth_mono (year : Nat) {month later : Nat} (after : month ≤ later) :
    daysBeforeMonth year month ≤ daysBeforeMonth year later := by
  induction after with
  | refl => exact Nat.le_refl _
  | @step later _ ih =>
    cases later with
    | zero => exact ih
    | succ later => exact Nat.le_trans ih (Nat.le_add_right ..)

theorem daysBeforeMonth_year (year : Nat) : daysBeforeMonth year 13 = 337 + daysInMonth year 2 := by
  simp only [daysBeforeMonth,daysInMonth]
  simp only [if_true,Nat.reduceEqDiff,or_false,or_true,if_false]
  omega

theorem Date.toOrdinal_le (date : Date) : date.toOrdinal ≤ daysBeforeYear (date.year + 1) := by
  have ⟨_,last⟩ := date.days
  have month := daysBeforeMonth_succ date.year date.months.1
  have year := daysBeforeMonth_mono date.year (Nat.add_le_add_right date.months.2 1)
  rw [daysBeforeMonth_year] at year
  rw [daysBeforeYear_succ date.years.1,toOrdinal]
  omega

theorem daysBeforeYear_mono {year later : Nat} (first : 1 ≤ year) (after : year ≤ later) : daysBeforeYear year ≤ daysBeforeYear later := by
  induction after with
  | refl => exact Nat.le_refl _
  | @step later before ih =>
    have next := daysBeforeYear_succ (Nat.le_trans first before)
    change _ ≤ daysBeforeYear (later + 1)
    omega

theorem Date.Before.toOrdinal_lt {first second : Date} (before : first.Before second) : first.toOrdinal < second.toOrdinal := by
  have ⟨low,_⟩ := second.days
  rcases before with year | ⟨year,month | ⟨month,day⟩⟩
  · have within := first.toOrdinal_le
    have := daysBeforeYear_mono (Nat.le_add_left 1 first.year) (show first.year + 1 ≤ second.year from year)
    unfold toOrdinal at within ⊢
    omega
  · have within := first.days.2
    have next := daysBeforeMonth_succ first.year first.months.1
    have := daysBeforeMonth_mono first.year (show first.month + 1 ≤ second.month from month)
    rw [toOrdinal,toOrdinal,← year]
    omega
  · rw [toOrdinal,toOrdinal,year,month]
    omega

theorem Date.toOrdinal_lt_iff {first second : Date} : first.toOrdinal < second.toOrdinal ↔ first.Before second := by
  refine ⟨fun less => ?_,Before.toOrdinal_lt⟩
  rcases first.before_cases second with before | same | after
  · exact before
  · exact absurd less (same ▸ Nat.lt_irrefl _)
  · exact absurd (Before.toOrdinal_lt after) (Nat.lt_asymm less)

theorem Date.toOrdinal_inj {first second : Date} : first.toOrdinal = second.toOrdinal ↔ first = second := by
  refine ⟨fun same => ?_,fun same => same ▸ rfl⟩
  rcases first.before_cases second with before | equal | after
  · exact absurd same (Nat.ne_of_lt before.toOrdinal_lt)
  · exact equal
  · exact absurd same (Nat.ne_of_gt after.toOrdinal_lt)

theorem DateTime.seconds_lt_iff {first second : DateTime} :
    first.seconds < second.seconds ↔ first.date.Before second.date ∨ first.date = second.date ∧ first.second < second.second := by
  have := first.within
  have := second.within
  rw [← Date.toOrdinal_lt_iff,← Date.toOrdinal_inj,seconds,seconds]
  omega

theorem length_pad (width value : Nat) : (pad width value).length = width := by
  induction width generalizing value with
  | zero => rfl
  | succ width ih => rw [pad,List.length_cons,ih]

theorem digit_lt {first second : Nat} (left : first < 10) (right : second < 10) : digit first < digit second ↔ first < second := by
  have all : ∀ first < 10, ∀ second < 10, digit first < digit second ↔ first < second := by decide
  exact all first left second right

theorem digit_inj {first second : Nat} (left : first < 10) (right : second < 10) : digit first = digit second ↔ first = second := by
  have all : ∀ first < 10, ∀ second < 10, digit first = digit second ↔ first = second := by decide
  exact all first left second right

section
variable {width first second : Nat} (left : first < 10 ^ width) (right : second < 10 ^ width)
include left right

theorem pad_inj :
    pad width first = pad width second ↔ first = second := by
  induction width generalizing first second with
  | zero =>
    rw [Nat.lt_one_iff.mp left,Nat.lt_one_iff.mp right]
    simp
  | succ width ih =>
    have positive : 0 < 10 ^ width := Nat.pow_pos (by decide)
    rw [Nat.pow_succ] at left right
    have high := digit_inj (Nat.div_lt_of_lt_mul left) (Nat.div_lt_of_lt_mul right)
    have low := ih (Nat.mod_lt first positive) (Nat.mod_lt second positive)
    rw [pad,pad,List.cons.injEq,high,low]
    refine ⟨fun ⟨quotient,rest⟩ => ?_,fun same => same ▸ ⟨rfl,rfl⟩⟩
    rw [← Nat.div_add_mod first (10 ^ width),← Nat.div_add_mod second (10 ^ width),quotient,rest]

theorem pad_lt :
    pad width first < pad width second ↔ first < second := by
  induction width generalizing first second with
  | zero =>
    rw [Nat.lt_one_iff.mp left,Nat.lt_one_iff.mp right]
    simp [pad]
  | succ width ih =>
    have positive : 0 < 10 ^ width := Nat.pow_pos (by decide)
    rw [Nat.pow_succ] at left right
    have high := digit_lt (Nat.div_lt_of_lt_mul left) (Nat.div_lt_of_lt_mul right)
    have same := digit_inj (Nat.div_lt_of_lt_mul left) (Nat.div_lt_of_lt_mul right)
    have low := ih (Nat.mod_lt first positive) (Nat.mod_lt second positive)
    have dividedFirst := Nat.div_add_mod first (10 ^ width)
    have dividedSecond := Nat.div_add_mod second (10 ^ width)
    have smallFirst := Nat.mod_lt first positive
    have smallSecond := Nat.mod_lt second positive
    rw [pad,pad,List.cons_lt_cons_iff,high,same,low]
    constructor
    · rintro (quotient | ⟨quotient,rest⟩)
      · have step := Nat.mul_le_mul_left (10 ^ width) (show first / 10 ^ width + 1 ≤ second / 10 ^ width from quotient)
        rw [Nat.mul_succ] at step
        omega
      · rw [quotient] at dividedFirst
        omega
    · intro less
      rcases Nat.lt_trichotomy (first / 10 ^ width) (second / 10 ^ width) with quotient | quotient | quotient
      · exact .inl quotient
      · rw [quotient] at dividedFirst
        exact .inr ⟨quotient,by omega⟩
      · have step := Nat.mul_le_mul_left (10 ^ width) (show second / 10 ^ width + 1 ≤ first / 10 ^ width from quotient)
        rw [Nat.mul_succ] at step
        omega

end

theorem append_lt {first second rest others : List Char} (length : first.length = second.length) :
    first ++ rest < second ++ others ↔ first < second ∨ first = second ∧ rest < others := by
  induction first generalizing second with
  | nil =>
    cases List.length_eq_zero_iff.mp length.symm
    simp
  | cons c first ih =>
    cases second with
    | nil => cases length
    | cons d second =>
      rw [List.cons_append,List.cons_append,List.cons_lt_cons_iff,List.cons_lt_cons_iff,ih (Nat.succ.inj length),List.cons.injEq]
      tauto

theorem field_lt {width first second : Nat} (left : first < 10 ^ width) (right : second < 10 ^ width) (sign : Char) (rest others : List Char) :
    pad width first ++ sign :: rest < pad width second ++ sign :: others ↔ first < second ∨ first = second ∧ rest < others := by
  rw [append_lt (by rw [length_pad,length_pad]),pad_lt left right,pad_inj left right,List.cons_lt_cons_iff]
  simp

theorem Date.day_lt (date : Date) : date.day < 10 ^ 2 := by
  have := date.days.2
  unfold daysInMonth at this
  split_ifs at this <;> omega

theorem DateTime.isoformat_lt {first second : DateTime} : first.isoformat < second.isoformat ↔ first.seconds < second.seconds := by
  have yearFirst := first.date.years
  have yearSecond := second.date.years
  have monthFirst := first.date.months
  have monthSecond := second.date.months
  have withinFirst := first.within
  have withinSecond := second.within
  rw [seconds_lt_iff,isoformat,isoformat,field_lt (by omega) (by omega),field_lt (by omega) (by omega),
    field_lt first.date.day_lt second.date.day_lt,field_lt (by omega) (by omega),field_lt (by omega) (by omega),
    pad_lt (by omega) (by omega)]
  have same : first.date = second.date ↔ first.date.year = second.date.year ∧ first.date.month = second.date.month ∧
      first.date.day = second.date.day := by
    cases first.date
    cases second.date
    simp
  rw [same]
  unfold Date.Before
  omega

theorem Date.toOrdinal_previous {date before : Date} (found : date.previous = some before) :
    before.toOrdinal + 1 = date.toOrdinal := by
  have ⟨low,_⟩ := date.days
  unfold previous at found
  split at found
  · cases found
    unfold toOrdinal
    dsimp only
    omega
  · split at found
    · rename_i first later
      have month := daysBeforeMonth_succ date.year (show 1 ≤ date.month - 1 by omega)
      rw [Nat.sub_add_cancel date.months.1] at month
      cases found
      unfold toOrdinal
      dsimp only
      omega
    · split at found
      · rename_i first january later
        have year := daysBeforeYear_succ (show 1 ≤ date.year - 1 by omega)
        have months := daysBeforeMonth_year (date.year - 1)
        have december : daysBeforeMonth (date.year - 1) 13 = _ := daysBeforeMonth_succ (date.year - 1) (show 1 ≤ 12 by decide)
        have last : daysInMonth (date.year - 1) 12 = 31 := by simp [daysInMonth]
        have month : date.month = 1 := by
          have := date.months
          omega
        have before : daysBeforeMonth date.year date.month = 0 := by
          rw [month]
          rfl
        rw [Nat.sub_add_cancel date.years.1] at year
        cases found
        change daysBeforeYear (date.year - 1) + daysBeforeMonth (date.year - 1) 12 + 31 + 1 =
          daysBeforeYear date.year + daysBeforeMonth date.year date.month + date.day
        omega
      · cases found

theorem Date.previous_isSome {date : Date} (later : 1 < date.toOrdinal) : date.previous.isSome := by
  unfold previous
  split
  · rfl
  · split
    · rfl
    · split
      · rfl
      · rename_i day month year
        have first : date.year = 1 ∧ date.month = 1 ∧ date.day = 1 := by
          have := date.years
          have := date.months
          have := date.days
          omega
        rw [toOrdinal,first.1,first.2.1,first.2.2] at later
        exact absurd later (by decide)

theorem Date.toOrdinal_back {count : Nat} {date before : Date} (found : date.back count = some before) :
    before.toOrdinal + count = date.toOrdinal := by
  induction count generalizing date with
  | zero =>
    cases found
    rfl
  | succ count ih =>
    obtain ⟨between,day,rest⟩ := Option.bind_eq_some_iff.mp found
    have := toOrdinal_previous day
    have := ih rest
    omega

theorem Date.back_isSome {count : Nat} {date : Date} (later : count < date.toOrdinal) : (date.back count).isSome := by
  induction count generalizing date with
  | zero => rfl
  | succ count ih =>
    obtain ⟨before,found⟩ := Option.isSome_iff_exists.mp (previous_isSome (show 1 < date.toOrdinal by omega))
    have := toOrdinal_previous found
    rw [back,found,Option.bind_some]
    exact ih (by omega)

theorem DateTime.minus_seconds {time before : DateTime} {span : Nat} (found : time.minus span = some before) :
    before.seconds + span = time.seconds := by
  have within := time.within
  obtain ⟨date,day,same⟩ := Option.map_eq_some_iff.mp found
  have days := Date.toOrdinal_back day
  cases same
  rw [seconds,seconds]
  dsimp only
  generalize time.date.toOrdinal = ordinal at days ⊢
  generalize date.toOrdinal = earlier at days ⊢
  omega

theorem DateTime.minus_isSome {time : DateTime} {span : Nat} (later : span + 86400 ≤ time.seconds) : (time.minus span).isSome := by
  have within := time.within
  rw [minus,Option.isSome_map]
  apply Date.back_isSome
  rw [seconds] at later
  omega

end Calendar
