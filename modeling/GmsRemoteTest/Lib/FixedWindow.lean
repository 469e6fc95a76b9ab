import GmsRemoteTest.Lib.Runs

/-! A limiter with fixed windows. Failures are counted from the first of a window on; a window that holds as many as the threshold
blocks for a time. An attempt that fails is admitted only while nothing blocks. -/
namespace FixedWindow
open Runs

structure Limits where
  window : Int
  block : Int
  threshold : Nat

structure Counter where
  count : Nat
  startedAt : Int
  blockedUntil : Option Int
deriving DecidableEq

def Blocked (counter : Option Counter) (time : Int) : Prop := ∃ known ∈ counter, ∃ limit ∈ known.blockedUntil, time < limit

def Held (counter : Option Counter) (time : Int) : Prop := ∃ known ∈ counter, ∃ limit ∈ known.blockedUntil, time ≤ limit

variable (limits : Limits)

def Continues (counter : Counter) (time : Int) : Prop := time - limits.window < counter.startedAt

instance (counter : Counter) (time : Int) : Decidable (Continues limits counter time) := inferInstanceAs (Decidable (_ < _))

def opened (counter : Option Counter) (time : Int) : Nat × Int :=
  match counter with
  | none => (1,time)
  | some known => if Continues limits known time then (known.count + 1,known.startedAt) else (1,time)

def failed (counter : Option Counter) (time : Int) : Counter where
  count := (opened limits counter time).1
  startedAt := (opened limits counter time).2
  blockedUntil := if limits.threshold ≤ (opened limits counter time).1 then some (time + limits.block) else counter.bind (·.blockedUntil)

/-- What happens to a counter: an attempt that is admitted and fails, a success that clears the counter, or the time goes on. -/
inductive Event
  | failure (checkedAt recordedAt : Int)
  | cleared
  | passed (time : Int)

structure State where
  clock : Int
  counter : Option Counter

def apply (event : Event) (state : State) : State :=
  match event with
  | .failure _ recordedAt => ⟨recordedAt,some (failed limits state.counter recordedAt)⟩
  | .cleared => {state with counter := none}
  | .passed time => {state with clock := time}

def Admitted (state : State) : Event → Prop
  | .failure checkedAt recordedAt => state.clock ≤ checkedAt ∧ checkedAt ≤ recordedAt ∧ ¬Blocked state.counter checkedAt
  | .cleared => True
  | .passed time => state.clock ≤ time

/-- The event does not clear the counter. -/
def Event.Keeps : Event → Prop
  | .cleared => False
  | _ => True

def Event.Within (start : Int) (length : Int) : Event → Prop
  | .failure checkedAt _ => start ≤ checkedAt ∧ checkedAt < start + length
  | _ => True

def Event.fails : Event → Bool
  | .failure .. => true
  | _ => false

def failures (events : List Event) : Nat := events.countP Event.fails

variable {limits} {state : State}

@[simp] theorem blocked_none {time : Int} : ¬Blocked none time := by
  simp [Blocked]

@[simp] theorem blocked_some {counter : Counter} {time : Int} :
    Blocked (some counter) time ↔ ∃ limit ∈ counter.blockedUntil, time < limit := by
  simp [Blocked]

theorem Held.blocked {counter : Option Counter} {time now : Int} (held : Held counter time) (before : now < time) : Blocked counter now := by
  obtain ⟨known,found,limit,blocks,late⟩ := held
  exact ⟨known,found,limit,blocks,by omega⟩

theorem failed_held {counter : Option Counter} {time : Int} (full : limits.threshold ≤ (failed limits counter time).count) :
    Held (some (failed limits counter time)) (time + limits.block) :=
  ⟨_,rfl,_,if_pos full,Int.le_refl _⟩

theorem Held.step {time : Int} (held : Held state.counter time) (near : time ≤ state.clock + limits.block) {event : Event}
    (admitted : Admitted state event) (keeps : event.Keeps) :
    Held (apply limits event state).counter time ∧ time ≤ (apply limits event state).clock + limits.block := by
  cases event with
  | cleared => exact keeps.elim
  | passed later =>
    have after : state.clock ≤ later := admitted
    exact ⟨held,show time ≤ later + limits.block by omega⟩
  | failure checkedAt recordedAt =>
    obtain ⟨after,recorded,_⟩ := admitted
    have near : time ≤ recordedAt + limits.block := by omega
    refine ⟨⟨_,rfl,?_⟩,near⟩
    by_cases full : limits.threshold ≤ (failed limits state.counter recordedAt).count
    · exact ⟨_,if_pos full,near⟩
    · obtain ⟨known,found,limit,blocks,late⟩ := held
      refine ⟨limit,?_,late⟩
      show (if limits.threshold ≤ (failed limits state.counter recordedAt).count then _ else _) = some limit
      rw [if_neg full,Option.mem_def.mp found]
      exact blocks

theorem Held.run {time : Int} {events : List Event} (held : Held state.counter time) (near : time ≤ state.clock + limits.block)
    (admitted : Along (fun state event => apply limits event state) Admitted state events) (keeps : ∀ event ∈ events, event.Keeps) :
    Held (exec (apply limits) state events).counter time := by
  induction events generalizing state with
  | nil => exact held
  | cons event events ih =>
    obtain ⟨next,further⟩ := held.step near admitted.1 (keeps event (List.mem_cons_self ..))
    exact ih next further admitted.2 fun other member => keeps other (List.mem_cons_of_mem _ member)

/-- Where a period stands after some admitted failures. In the window that was on at its beginning there are fewer than the
threshold unless it blocks to the end of the period; the window after it ends after the period. -/
inductive Progress (limits : Limits) (start : Int) (count : Nat) (state : State) : Prop
  | none (zero : count = 0)
  | first (known : Counter) (found : state.counter = some known) (open_ : known.count < limits.threshold) (bound : count ≤ known.count)
  | second (known : Counter) (found : state.counter = some known) (open_ : known.count < limits.threshold)
      (began : start ≤ known.startedAt) (bound : count + 1 ≤ limits.threshold + known.count)
  | past (closed : Held state.counter (start + limits.window) ∨ start + limits.window ≤ state.clock)
      (bound : count + 1 ≤ 2 * limits.threshold)

section
variable {start : Int} {count : Nat}

theorem Progress.bound (progress : Progress limits start count state) (positive : 0 < limits.threshold) :
    count + 1 ≤ 2 * limits.threshold := by
  cases progress with
  | none zero => omega
  | first known _ below bound => omega
  | second known _ below _ bound => omega
  | past _ bound => exact bound

theorem Progress.filled {checkedAt recordedAt : Int} (long : limits.window ≤ limits.block) (inside : start ≤ checkedAt)
    (recorded : checkedAt ≤ recordedAt) (full : limits.threshold ≤ (failed limits state.counter recordedAt).count)
    (bound : count + 1 ≤ 2 * limits.threshold) : Progress limits start count (FixedWindow.apply limits (.failure checkedAt recordedAt) state) := by
  obtain ⟨known,found,limit,blocks,late⟩ := failed_held full
  exact .past (.inl ⟨known,found,limit,blocks,by omega⟩) bound

section
variable {counter : Option Counter} {known : Counter} {time : Int} (found : counter = some known)
include found

theorem failed_continues (continues : Continues limits known time) :
    (failed limits counter time).count = known.count + 1 ∧ (failed limits counter time).startedAt = known.startedAt := by
  simp [failed,opened,found,continues]

theorem failed_opens (opens : ¬Continues limits known time) :
    (failed limits counter time).count = 1 ∧ (failed limits counter time).startedAt = time := by
  simp [failed,opened,found,opens]

end

theorem failed_count (counter : Option Counter) (time : Int) : 1 ≤ (failed limits counter time).count := by
  cases counter with
  | none => exact Nat.le_refl 1
  | some known =>
    by_cases continues : Continues limits known time
    · rw [(failed_continues rfl continues).1]
      omega
    · exact Nat.le_of_eq (failed_opens rfl continues).1.symm

theorem Progress.failure {checkedAt recordedAt : Int} (progress : Progress limits start count state) (positive : 0 < limits.threshold)
    (long : limits.window ≤ limits.block) (admitted : Admitted state (.failure checkedAt recordedAt))
    (inside : start ≤ checkedAt) (early : checkedAt < start + limits.window) :
    Progress limits start (count + 1) (apply limits (.failure checkedAt recordedAt) state) := by
  obtain ⟨after,recorded,free⟩ := admitted
  have filled := @Progress.filled limits state start (count + 1) checkedAt recordedAt long inside recorded
  cases progress with
  | none zero =>
    by_cases full : limits.threshold ≤ (failed limits state.counter recordedAt).count
    · exact filled full (by omega)
    · have counted := @failed_count limits state.counter recordedAt
      exact .first _ rfl (by omega) (by omega)
  | first known found below bound =>
    by_cases full : limits.threshold ≤ (failed limits state.counter recordedAt).count
    · exact filled full (by omega)
    · by_cases continues : Continues limits known recordedAt
      · obtain ⟨counted,_⟩ := failed_continues found continues
        exact .first _ rfl (by omega) (by omega)
      · obtain ⟨counted,began⟩ := failed_opens found continues
        exact .second _ rfl (by omega) (by omega) (by omega)
  | second known found below began bound =>
    by_cases continues : Continues limits known recordedAt
    · obtain ⟨counted,same⟩ := failed_continues found continues
      by_cases full : limits.threshold ≤ (failed limits state.counter recordedAt).count
      · exact filled full (by omega)
      · exact .second _ rfl (by omega) (by omega) (by omega)
    · unfold Continues at continues
      exact .past (.inr (show start + limits.window ≤ recordedAt by omega)) (by omega)
  | past closed bound =>
    rcases closed with held | past
    · exact absurd (held.blocked early) free
    · omega

theorem failures_bound {events : List Event} (positive : 0 < limits.threshold) (long : limits.window ≤ limits.block)
    (admitted : Along (fun state event => apply limits event state) Admitted state events) (keeps : ∀ event ∈ events, event.Keeps)
    (within : ∀ event ∈ events, event.Within start limits.window) : failures events + 1 ≤ 2 * limits.threshold := by
  have all : ∀ events count state, Progress limits start count state →
      Along (fun state event => apply limits event state) Admitted state events → (∀ event ∈ events, event.Keeps) →
      (∀ event ∈ events, event.Within start limits.window) → count + failures events + 1 ≤ 2 * limits.threshold := by
    intro events
    induction events with
    | nil => exact fun count state progress _ _ _ => progress.bound positive
    | cons event events ih =>
      intro count state progress admitted keeps within
      have rest := fun count progress => ih count (apply limits event state) progress admitted.2
        (fun other member => keeps other (List.mem_cons_of_mem _ member)) fun other member => within other (List.mem_cons_of_mem _ member)
      cases event with
      | cleared => exact (keeps .cleared (List.mem_cons_self ..)).elim
      | passed time =>
        have later : Progress limits start count (apply limits (.passed time) state) := by
          have after : state.clock ≤ time := admitted.1
          cases progress with
          | none zero => exact .none zero
          | first known found below bound => exact .first known found below bound
          | second known found below began bound => exact .second known found below began bound
          | past closed bound => exact .past (closed.imp_right fun past => show start + limits.window ≤ time by omega) bound
        exact rest count later
      | failure checkedAt recordedAt =>
        obtain ⟨inside,early⟩ := within (.failure checkedAt recordedAt) (List.mem_cons_self ..)
        have next := rest (count + 1) (progress.failure positive long admitted.1 inside early)
        have counted : failures (.failure checkedAt recordedAt :: events) = failures events + 1 := List.countP_cons_of_pos rfl
        omega
  simpa using all events 0 state (.none rfl) admitted keeps within

end

end FixedWindow
