import GmsRemoteTest.Lib.WallClock
import Mathlib.Data.List.Sort
import Mathlib.Data.List.Dedup
import Mathlib.Order.Bounds.Basic

/-! The schedule of a test plan and the instant it is due next. An instant is the microseconds since the first of January of the
year one in UTC, a local time the microseconds on a calendar and clock; `date.min` is a Monday. -/
namespace GmsRemoteTest.Automation.Schedules
open WallClock

inductive Kind
  | manual | interval | daily | weekly
deriving DecidableEq, Repr

/-- The fields of a `PlanSchedule` within their own bounds; a digit of `time` is read by `decimal`. -/
structure Fields where
  kind : Kind
  timezone : String
  time : List Char
  weekdays : List Int
  intervalMinutes : Int
  interval : 5 ≤ intervalMinutes ∧ intervalMinutes ≤ 10080

structure PlanSchedule where
  kind : Kind
  timezone : String
  hour : Nat
  minute : Nat
  weekdays : List Int
  intervalMinutes : Int
  clock : hour < 24 ∧ minute < 60
  week : ∀ weekday ∈ weekdays, 0 ≤ weekday ∧ weekday ≤ 6
  selected : kind = .weekly → weekdays ≠ []
  interval : 5 ≤ intervalMinutes ∧ intervalMinutes ≤ 10080

def readTime (decimal : Char → Option (Fin 10)) : List Char → Option {time : Nat × Nat // time.1 < 24 ∧ time.2 < 60}
  | [a,b,':',c,d] =>
    let hour := if a ∈ ['0','1'] then (decimal b).map fun b => (a.toNat - 48) * 10 + b.val
      else if a = '2' ∧ b ∈ ['0','1','2','3'] then some (20 + (b.toNat - 48)) else none
    let minute := if c ∈ ['0','1','2','3','4','5'] then (decimal d).map fun d => (c.toNat - 48) * 10 + d.val else none
    hour.bind fun hour => minute.bind fun minute =>
      if both : hour < 24 ∧ minute < 60 then some ⟨(hour,minute),both⟩ else none
  | _ => none

theorem weekdays_nil {weekdays : List Int} (empty : weekdays.dedup.insertionSort (· ≤ ·) = []) : weekdays = [] := by
  have same := List.perm_insertionSort (· ≤ ·) weekdays.dedup
  rw [empty] at same
  exact (List.dedup_eq_nil _).mp same.symm.eq_nil

def validateWallClock (known : String → Bool) (decimal : Char → Option (Fin 10)) (fields : Fields) : Except String PlanSchedule :=
  if !known fields.timezone then .error "Unknown schedule timezone"
  else match readTime decimal fields.time with
    | none => .error "Schedule time must be HH:MM"
    | some ⟨time,clock⟩ =>
      if week : ∀ weekday ∈ fields.weekdays, 0 ≤ weekday ∧ weekday ≤ 6 then
        if none : fields.kind = .weekly ∧ fields.weekdays = [] then .error "Select at least one weekday"
        else .ok {
          kind := fields.kind
          timezone := fields.timezone
          hour := time.1
          minute := time.2
          weekdays := fields.weekdays.dedup.insertionSort (· ≤ ·)
          intervalMinutes := fields.intervalMinutes
          clock
          week := fun weekday member => week weekday (by simpa using member)
          selected := fun weekly empty => none ⟨weekly,weekdays_nil empty⟩
          interval := fields.interval }
      else .error "Weekdays must be integers from 0 (Monday) to 6"

def maxDays : Int := 3652059

def Fits (time : Int) : Prop := 0 ≤ time ∧ time < maxDays * day

instance (time : Int) : Decidable (Fits time) := instDecidableAnd

/-- The `tzinfo` of a clock; `ZoneInfo` gives the same object for the same name. -/
inductive Tz
  | zoneInfo (name : String)
  | other (zone : Zone)

/-- A `datetime` with its `tzinfo`. -/
structure Aware where
  tz : Tz
  utc : Int

inductive ScheduleError
  | overflow | noOccurrence
deriving DecidableEq

variable (zoneInfo : String → Zone)

def Tz.zone : Tz → Zone
  | .zoneInfo name => zoneInfo name
  | .other zone => zone

def Tz.named (name : String) : Tz → Bool
  | .zoneInfo key => key == name
  | .other _ => false

namespace PlanSchedule
variable (schedule : PlanSchedule)

def zone : Zone := zoneInfo schedule.timezone

def time : Int := (schedule.hour * 60 + schedule.minute : Nat) * 60000000

/-- A day of the schedule. -/
def Allowed (date : Int) : Prop := schedule.kind = .weekly → date % 7 ∈ schedule.weekdays

instance (date : Int) : Decidable (schedule.Allowed date) := inferInstanceAs (Decidable (_ → _))

def candidate (date : Int) : Int := (schedule.zone zoneInfo).resolve (date * day + schedule.time) false

def search (now today : Int) : List Nat → Except ScheduleError Int
  | [] => .error .noOccurrence
  | offset :: offsets =>
    let date := today + offset
    if ¬Fits (date * day) then .error .overflow
    else if ¬schedule.Allowed date then search now today offsets
    else
      let utc := schedule.candidate zoneInfo date
      let shown := (schedule.zone zoneInfo).wall utc
      if ¬(Fits utc ∧ Fits shown) then .error .overflow
      else if shown ≠ date * day + schedule.time then search now today offsets
      else if now < utc then .ok utc else search now today offsets

/-- `next_after`; without an instant it is the empty text. -/
def nextAfter (now : Aware) : Except ScheduleError (Option Int) :=
  match schedule.kind with
  | .manual => .ok none
  | .interval =>
    -- `now + timedelta(..)` moves the clock of `now`, and drops its fold
    let moved := (now.tz.zone zoneInfo).wall now.utc + schedule.intervalMinutes * 60000000
    let utc := (now.tz.zone zoneInfo).resolve moved false
    if Fits moved ∧ Fits utc then .ok (some utc) else .error .overflow
  | .daily | .weekly =>
    let shown := (schedule.zone zoneInfo).wall now.utc
    -- `astimezone` gives a clock of the same `tzinfo` back as it is
    if now.tz.named schedule.timezone = true ∨ Fits now.utc ∧ Fits shown then
      (schedule.search zoneInfo now.utc (shown / day) (List.range 9)).map some
    else .error .overflow

def Due (now date : Int) : Prop :=
  schedule.Allowed date ∧ (schedule.zone zoneInfo).wall (schedule.candidate zoneInfo date) = date * day + schedule.time ∧
    now < schedule.candidate zoneInfo date

def InRange (date : Int) : Prop := Fits (date * day) ∧
  (schedule.Allowed date → Fits (schedule.candidate zoneInfo date) ∧ Fits ((schedule.zone zoneInfo).wall (schedule.candidate zoneInfo date)))

instance (now date : Int) : Decidable (schedule.Due zoneInfo now date) := inferInstanceAs (Decidable (_ ∧ _ ∧ _))

instance (date : Int) : Decidable (schedule.InRange zoneInfo date) := inferInstanceAs (Decidable (_ ∧ (_ → _)))

variable {zoneInfo schedule} {now today next : Int}

def Finds (zoneInfo : String → Zone) (schedule : PlanSchedule) (now today next : Int) (offsets : List Nat) : Prop :=
  ∃ before, ∃ offset : Nat, ∃ after, offsets = before ++ offset::after ∧ next = schedule.candidate zoneInfo (today + offset) ∧
    schedule.Due zoneInfo now (today + offset) ∧ (∀ earlier : Nat, earlier ∈ before → ¬schedule.Due zoneInfo now (today + earlier)) ∧
    ∀ looked : Nat, looked ∈ before ++ [offset] → schedule.InRange zoneInfo (today + looked)

theorem Finds.cons {offset : Nat} {offsets : List Nat} (finds : Finds zoneInfo schedule now today next offsets)
    (passed : ¬schedule.Due zoneInfo now (today + offset)) (inRange : schedule.InRange zoneInfo (today + offset)) :
    Finds zoneInfo schedule now today next (offset::offsets) := by
  obtain ⟨before,other,after,split,same,due,others,looked⟩ := finds
  refine ⟨offset::before,other,after,by rw [split,List.cons_append],same,due,?_,?_⟩
  · exact List.forall_mem_cons.mpr ⟨passed,others⟩
  · exact List.forall_mem_cons.mpr ⟨inRange,looked⟩

theorem search_finds {offsets : List Nat} (found : schedule.search zoneInfo now today offsets = .ok next) :
    Finds zoneInfo schedule now today next offsets := by
  induction offsets with
  | nil => cases found
  | cons offset offsets ih =>
    unfold search at found
    dsimp only at found
    by_cases dates : Fits ((today + offset) * day)
    · rw [if_neg (not_not.mpr dates)] at found
      by_cases allowed : schedule.Allowed (today + offset)
      · rw [if_neg (not_not.mpr allowed)] at found
        by_cases range : Fits (schedule.candidate zoneInfo (today + offset)) ∧
            Fits ((schedule.zone zoneInfo).wall (schedule.candidate zoneInfo (today + offset)))
        · rw [if_neg (not_not.mpr range)] at found
          split_ifs at found with shown later
          · exact (ih found).cons (fun due => shown due.2.1) ⟨dates,fun _ => range⟩
          · cases found
            exact ⟨[],offset,offsets,rfl,rfl,⟨allowed,not_not.mp shown,later⟩,by simp,by simpa using ⟨dates,fun _ => range⟩⟩
          · exact (ih found).cons (fun due => later due.2.2) ⟨dates,fun _ => range⟩
        · rw [if_pos range] at found
          cases found
      · rw [if_pos allowed] at found
        exact (ih found).cons (fun due => allowed due.1) ⟨dates,fun is => absurd is allowed⟩
    · rw [if_pos dates] at found
      cases found

theorem search_reaches {before after : List Nat} {offset : Nat} (due : schedule.Due zoneInfo now (today + offset))
    (inRange : ∀ looked : Nat, looked ∈ before ++ [offset] → schedule.InRange zoneInfo (today + looked)) :
    ∃ next, schedule.search zoneInfo now today (before ++ offset::after) = .ok next := by
  induction before with
  | nil =>
    obtain ⟨allowed,shown,later⟩ := due
    obtain ⟨dates,range⟩ := inRange offset (by simp)
    refine ⟨schedule.candidate zoneInfo (today + offset),?_⟩
    rw [List.nil_append,search]
    dsimp only
    rw [if_neg (not_not.mpr dates),if_neg (not_not.mpr allowed),if_neg (not_not.mpr (range allowed)),if_neg (not_not.mpr shown),
      if_pos later]
  | cons first before ih =>
    obtain ⟨next,found⟩ := ih fun looked member => inRange looked (List.mem_cons_of_mem _ member)
    obtain ⟨dates,range⟩ := inRange first (by simp)
    rw [List.cons_append,search]
    dsimp only
    rw [if_neg (not_not.mpr dates)]
    by_cases allowed : schedule.Allowed (today + first)
    · rw [if_neg (not_not.mpr allowed),if_neg (not_not.mpr (range allowed))]
      split_ifs
      · exact ⟨next,found⟩
      · exact ⟨_,rfl⟩
      · exact ⟨next,found⟩
    · rw [if_pos allowed]
      exact ⟨next,found⟩

def Occurrence (zoneInfo : String → Zone) (schedule : PlanSchedule) (t : Int) : Prop :=
  (schedule.zone zoneInfo).wall t % day = schedule.time ∧ schedule.Allowed ((schedule.zone zoneInfo).wall t / day) ∧
    (schedule.zone zoneInfo).First t

theorem time_bounds (schedule : PlanSchedule) : 0 ≤ schedule.time ∧ schedule.time < day := by
  have clock := schedule.clock
  unfold time day
  omega

theorem date_of_candidate (schedule : PlanSchedule) (date : Int) :
    (date * day + schedule.time) / day = date ∧ (date * day + schedule.time) % day = schedule.time := by
  have bounds := schedule.time_bounds
  unfold day at *
  omega

theorem Due.occurrence {date : Int} (due : schedule.Due zoneInfo now date) :
    schedule.Occurrence zoneInfo (schedule.candidate zoneInfo date) := by
  obtain ⟨allowed,shown,_⟩ := due
  obtain ⟨quotient,remainder⟩ := schedule.date_of_candidate date
  refine ⟨?_,?_,Zone.resolve_first shown⟩
  · rw [shown,remainder]
  · rw [shown,quotient]
    exact allowed

theorem Occurrence.due {t : Int} (occurrence : schedule.Occurrence zoneInfo t) (later : now < t) :
    schedule.candidate zoneInfo ((schedule.zone zoneInfo).wall t / day) = t ∧
      schedule.Due zoneInfo now ((schedule.zone zoneInfo).wall t / day) := by
  obtain ⟨clock,allowed,first⟩ := occurrence
  have whole : (schedule.zone zoneInfo).wall t / day * day + schedule.time = (schedule.zone zoneInfo).wall t := by
    rw [← clock]
    exact Int.ediv_mul_add_emod _ _
  have resolved : schedule.candidate zoneInfo ((schedule.zone zoneInfo).wall t / day) = t := by
    unfold candidate
    rw [whole]
    exact (schedule.zone zoneInfo).first t first
  refine ⟨resolved,allowed,?_,?_⟩
  · rw [resolved,whole]
  · rw [resolved]
    exact later

theorem Finds.least (finds : Finds zoneInfo schedule now ((schedule.zone zoneInfo).wall now / day) next (List.range 9)) :
    IsLeast {t | now < t ∧ schedule.Occurrence zoneInfo t} next := by
  obtain ⟨before,offset,after,split,rfl,due,passed,_⟩ := finds
  refine ⟨⟨due.2.2,due.occurrence⟩,fun t ⟨later,occurrence⟩ => ?_⟩
  by_contra less
  obtain ⟨resolved,tDue⟩ := occurrence.due later
  have today : (schedule.zone zoneInfo).wall now < (schedule.zone zoneInfo).wall t :=
    (schedule.zone zoneInfo).isolated t occurrence.2.2 now later
  have order : (schedule.zone zoneInfo).wall now / day ≤ (schedule.zone zoneInfo).wall t / day :=
    Int.ediv_le_ediv (by decide) today.le
  obtain ⟨skipped,skips⟩ : ∃ skipped : Nat, (schedule.zone zoneInfo).wall t / day = (schedule.zone zoneInfo).wall now / day + skipped :=
    ⟨((schedule.zone zoneInfo).wall t / day - (schedule.zone zoneInfo).wall now / day).toNat,by omega⟩
  have ordered : (List.range 9).Pairwise (· < ·) := List.pairwise_lt_range
  rw [skips] at resolved tDue
  rcases lt_trichotomy skipped offset with earlier | same | further
  · -- an earlier day of the range was looked at and was not due
    have inside : skipped ∈ before := by
      have member : skipped ∈ List.range 9 := by
        have := List.mem_range.mp (split ▸ (by simp) : offset ∈ List.range 9)
        exact List.mem_range.mpr (by omega)
      rw [split] at member ordered
      rcases List.mem_append.mp member with there | behind
      · exact there
      · rcases List.mem_cons.mp behind with here | behind
        · omega
        · have := (List.pairwise_cons.mp (List.pairwise_append.mp ordered).2.1).1 skipped behind
          omega
    exact passed skipped inside tDue
  · rw [same] at resolved
    omega
  · -- a later day is shown later
    have candidates := due.2.1
    have shown := tDue.2.1
    rw [resolved] at shown
    have clocks : (schedule.zone zoneInfo).wall (schedule.candidate zoneInfo ((schedule.zone zoneInfo).wall now / day + offset)) <
        (schedule.zone zoneInfo).wall t := by
      rw [candidates,shown]
      unfold day
      omega
    have := occurrence.2.2.lt due.occurrence.2.2 clocks
    omega

/-- `next_after` returns an instant, the first occurrence to come where the schedule is by the local clock. -/
def Next (zoneInfo : String → Zone) (schedule : PlanSchedule) (now : Aware) (next : Int) : Prop :=
  schedule.nextAfter zoneInfo now = .ok (some next) ∧ now.utc < next ∧
    (schedule.kind ≠ .interval → IsLeast {t | now.utc < t ∧ schedule.Occurrence zoneInfo t} next)

/-- The clock of `now` can be moved by the interval, and that is later; or one of the nine local days from today on is due. -/
def Reaches (zoneInfo : String → Zone) (schedule : PlanSchedule) (now : Aware) : Prop :=
  if schedule.kind = .interval then
    let moved := (now.tz.zone zoneInfo).wall now.utc + schedule.intervalMinutes * 60000000
    Fits moved ∧ Fits ((now.tz.zone zoneInfo).resolve moved false) ∧ now.utc < (now.tz.zone zoneInfo).resolve moved false
  else
    let shown := (schedule.zone zoneInfo).wall now.utc
    (now.tz.named schedule.timezone = true ∨ Fits now.utc ∧ Fits shown) ∧ ∃ offset : Nat, offset < 9 ∧
      schedule.Due zoneInfo now.utc (shown / day + offset) ∧
      ∀ looked : Nat, looked ≤ offset → schedule.InRange zoneInfo (shown / day + looked)

section
variable {clock : Aware}

theorem nextAfter_interval (interval : schedule.kind = .interval) :
    (∃ next, Next zoneInfo schedule clock next) ↔ Reaches zoneInfo schedule clock := by
  unfold Next Reaches nextAfter
  rw [interval,if_pos rfl]
  dsimp only
  constructor
  · rintro ⟨next,returned,later,_⟩
    split_ifs at returned with fits
    cases returned
    exact ⟨fits.1,fits.2,later⟩
  · rintro ⟨moved,utc,later⟩
    exact ⟨_,if_pos ⟨moved,utc⟩,later,fun other => absurd rfl other⟩

section
variable (byClock : schedule.kind = .daily ∨ schedule.kind = .weekly)
include byClock

theorem nextAfter_search : schedule.nextAfter zoneInfo clock =
    if clock.tz.named schedule.timezone = true ∨ Fits clock.utc ∧ Fits ((schedule.zone zoneInfo).wall clock.utc) then
      (schedule.search zoneInfo clock.utc ((schedule.zone zoneInfo).wall clock.utc / day) (List.range 9)).map some
    else .error .overflow := by
  unfold nextAfter
  rcases byClock with kind | kind <;> rw [kind]

theorem nextAfter_finds :
    schedule.nextAfter zoneInfo clock = .ok (some next) ↔
      (clock.tz.named schedule.timezone = true ∨ Fits clock.utc ∧ Fits ((schedule.zone zoneInfo).wall clock.utc)) ∧
        schedule.search zoneInfo clock.utc ((schedule.zone zoneInfo).wall clock.utc / day) (List.range 9) = .ok next := by
  rw [nextAfter_search byClock]
  split_ifs with converts
  · simp only [converts,true_and]
    cases schedule.search zoneInfo clock.utc ((schedule.zone zoneInfo).wall clock.utc / day) (List.range 9) with
    | error error => simp [Except.map]
    | ok found => simp [Except.map]
  · simp [converts]

theorem nextAfter_byClock :
    (∃ next, Next zoneInfo schedule clock next) ↔ Reaches zoneInfo schedule clock := by
  have local_ : schedule.kind ≠ .interval := by
    rcases byClock with kind | kind <;> rw [kind] <;> decide
  unfold Reaches
  rw [if_neg local_]
  dsimp only
  constructor
  · rintro ⟨next,returned,_,_⟩
    obtain ⟨converts,found⟩ := (nextAfter_finds byClock).mp returned
    obtain ⟨before,offset,after,split,_,due,_,inRange⟩ := search_finds found
    have member : offset ∈ List.range 9 := split ▸ (by simp)
    have ordered : (List.range 9).Pairwise (· < ·) := List.pairwise_lt_range
    refine ⟨converts,offset,List.mem_range.mp member,due,fun looked upto => inRange looked ?_⟩
    have inside : looked ∈ List.range 9 := List.mem_range.mpr (Nat.lt_of_le_of_lt upto (List.mem_range.mp member))
    rw [split] at inside ordered
    rcases List.mem_append.mp inside with there | behind
    · exact List.mem_append_left _ there
    · rcases List.mem_cons.mp behind with rfl | behind
      · simp
      · have := (List.pairwise_cons.mp (List.pairwise_append.mp ordered).2.1).1 looked behind
        omega
  · rintro ⟨converts,offset,few,due,inRange⟩
    obtain ⟨before,after,split⟩ := List.append_of_mem (List.mem_range.mpr few)
    have ordered : (List.range 9).Pairwise (· < ·) := List.pairwise_lt_range
    rw [split] at ordered
    have reached := @search_reaches zoneInfo schedule clock.utc ((schedule.zone zoneInfo).wall clock.utc / day) before after offset due
      fun looked member => by
        refine inRange looked ?_
        rcases List.mem_append.mp member with there | here
        · exact ((List.pairwise_append.mp ordered).2.2 looked there offset (by simp)).le
        · rw [List.mem_singleton.mp here]
    obtain ⟨next,found⟩ := reached
    rw [← split] at found
    have least := (search_finds found).least
    exact ⟨next,(nextAfter_finds byClock).mpr ⟨converts,found⟩,least.1.1,fun _ => least⟩

end

end

def utcClock (t : Int) : Aware := ⟨.other (fixed 0 (by decide)),t⟩

theorem nextAfter_later {t : Int} (timed : schedule.kind ≠ .manual) (returned : schedule.nextAfter zoneInfo (utcClock t) = .ok (some next)) :
    t < next ∧ (schedule.kind ≠ .interval → schedule.Occurrence zoneInfo next) := by
  cases kind : schedule.kind with
  | manual => exact absurd kind timed
  | interval =>
    unfold nextAfter at returned
    rw [kind] at returned
    dsimp only at returned
    split_ifs at returned
    cases returned
    have interval := schedule.interval
    refine ⟨?_,fun other => absurd rfl other⟩
    show t < t + 0 + schedule.intervalMinutes * 60000000 - 0
    omega
  | daily =>
    have least := (search_finds ((nextAfter_finds (.inl kind)).mp returned).2).least
    exact ⟨least.1.1,fun _ => least.1.2⟩
  | weekly =>
    have least := (search_finds ((nextAfter_finds (.inr kind)).mp returned).2).least
    exact ⟨least.1.1,fun _ => least.1.2⟩

theorem Occurrence.unique {s t : Int} (first : schedule.Occurrence zoneInfo s) (second : schedule.Occurrence zoneInfo t)
    (date : (schedule.zone zoneInfo).wall s / day = (schedule.zone zoneInfo).wall t / day) : s = t := by
  have same : (schedule.zone zoneInfo).wall s = (schedule.zone zoneInfo).wall t := by
    rw [← Int.ediv_mul_add_emod ((schedule.zone zoneInfo).wall s) day,← Int.ediv_mul_add_emod ((schedule.zone zoneInfo).wall t) day,
      date,first.1,second.1]
  exact second.2.2.inj first.2.2 same

/-- Exactly where a due day is reached `next_after` returns the first occurrence to come. Iterated from its own results it goes
forward, by the local clock at most once on each local date. -/
theorem next_after_first (zoneInfo : String → Zone) (schedule : PlanSchedule) (timed : schedule.kind ≠ .manual) :
    (∀ now, (∃ next, Next zoneInfo schedule now next) ↔ Reaches zoneInfo schedule now) ∧
    ∀ (results : Nat → Int) (count : Nat),
      (∀ n < count, schedule.nextAfter zoneInfo (utcClock (results n)) = .ok (some (results (n + 1)))) →
      (∀ i j, i < j → j ≤ count → results i < results j) ∧
      (schedule.kind ≠ .interval → ∀ i j, 1 ≤ i → i < j → j ≤ count →
        (schedule.zone zoneInfo).wall (results i) / day ≠ (schedule.zone zoneInfo).wall (results j) / day) := by
  refine ⟨fun now => ?_,fun results count iterates => ?_⟩
  · cases kind : schedule.kind with
    | manual => exact absurd kind timed
    | interval => exact nextAfter_interval kind
    | daily => exact nextAfter_byClock (.inl kind)
    | weekly => exact nextAfter_byClock (.inr kind)
  · have increases : ∀ i j, i < j → j ≤ count → results i < results j := by
      intro i j before
      induction j with
      | zero => omega
      | succ j ih =>
        intro most
        have next := (nextAfter_later timed (iterates j most)).1
        rcases Nat.lt_succ_iff_lt_or_eq.mp before with less | rfl
        · exact lt_trans (ih less (Nat.le_of_succ_le most)) next
        · exact next
    refine ⟨increases,fun byClock i j positive before most date => ?_⟩
    have occurs : ∀ n, 1 ≤ n → n ≤ count → schedule.Occurrence zoneInfo (results n) := by
      intro n least upto
      obtain ⟨n,rfl⟩ : ∃ less, n = less + 1 := ⟨n - 1,by omega⟩
      exact (nextAfter_later timed (iterates n upto)).2 byClock
    have same := (occurs i positive (by omega)).unique (occurs j (by omega) most) date
    have := increases i j before most
    omega

def newYork : Zone := once (739682 * day + 7 * 3600000000) (-5 * 3600000000) (-4 * 3600000000) (by decide)

def halfPastTwo (kind : Kind) (weekdays : List Int) (week : ∀ weekday ∈ weekdays, 0 ≤ weekday ∧ weekday ≤ 6)
    (selected : kind = .weekly → weekdays ≠ []) : PlanSchedule :=
  { kind,weekdays,week,selected,timezone := "America/New_York",hour := 2,minute := 30,intervalMinutes := 1440,clock := by decide,
    interval := by decide }

theorem gap_skipped : ∃ next, Next (fun _ => newYork) (halfPastTwo .daily [] (by simp) (by simp))
    (utcClock (739682 * day + 5 * 3600000000)) next :=
  ((next_after_first (fun _ => newYork) (halfPastTwo .daily [] (by simp) (by simp)) (by decide)).1 _).mpr
    ⟨.inr (by decide +kernel),1,by decide,by decide +kernel,by decide +kernel⟩

/-- Half an hour after this Sunday's occurrence, with the next Sunday's skipped. -/
theorem sunday_raises : ¬∀ (zoneInfo : String → Zone) (schedule : PlanSchedule) (now : Aware), schedule.kind ≠ .manual →
    ∃ next, Next zoneInfo schedule now next := by
  intro all
  obtain ⟨next,returned,_⟩ := all (fun _ => newYork) (halfPastTwo .weekly [6] (by simp) (by simp))
    (utcClock (739675 * day + 8 * 3600000000)) (by decide)
  have raised : (halfPastTwo .weekly [6] (by simp) (by simp)).nextAfter (fun _ => newYork) (utcClock (739675 * day + 8 * 3600000000)) =
      .error .noOccurrence := by decide +kernel
  rw [raised] at returned
  cases returned

end PlanSchedule
end GmsRemoteTest.Automation.Schedules
