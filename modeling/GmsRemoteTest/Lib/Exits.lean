import Mathlib.Data.List.Basic

/-! Programs with a state that may end early: with a result, by an exception, or because they are cancelled.
What a program reads from outside is an outcome; a part of the state that no step touches stays as it was, on
every way out. -/
namespace Exits

inductive Exit (Result : Type) where
  | result (value : Result)
  | raised
  | cancelled

inductive Outcome (α : Type) where
  | returned (value : α)
  | raised
  | cancelled
deriving DecidableEq

def Program (State Result α : Type) : Type := State → Except (Exit Result) α × State

variable {State Result α β : Type}

namespace Outcome

protected def bind : Outcome α → (α → Outcome β) → Outcome β
  | .returned value,next => next value
  | .raised,_ => .raised
  | .cancelled,_ => .cancelled

/-- Calls of which none touches the state. -/
instance : Monad Outcome where
  pure := .returned
  bind := Outcome.bind

def suppressed : Outcome Unit → Outcome Unit
  | .cancelled => .cancelled
  | _ => .returned ()

theorem bind_returned {first : Outcome α} {next : α → Outcome β} {value : β} :
    (first >>= next) = .returned value ↔ ∃ given, first = .returned given ∧ next given = .returned value := by
  change Outcome.bind first next = _ ↔ _
  cases first <;> simp [Outcome.bind]

end Outcome

namespace Program

protected def pure (value : α) : Program State Result α := fun state => (.ok value,state)

protected def bind (first : Program State Result α) (next : α → Program State Result β) : Program State Result β := fun state =>
  match first state with
  | (.ok value,state) => next value state
  | (.error exit,state) => (.error exit,state)

instance : Monad (Program State Result) where
  pure := Program.pure
  bind := Program.bind

def exit (exit : Exit Result) : Program State Result α := fun state => (.error exit,state)

def read : Program State Result State := fun state => (.ok state,state)

def modify (change : State → State) : Program State Result Unit := fun state => (.ok (),change state)

def await : Outcome α → Program State Result α
  | .returned value => Program.pure value
  | .raised => exit .raised
  | .cancelled => exit .cancelled

def suppress : Outcome Unit → Program State Result Unit
  | .cancelled => exit .cancelled
  | _ => Program.pure ()

def catching (result : Result) (body : Program State Result α) : Program State Result α := fun state =>
  match body state with
  | (.error .raised,state) => (.error (.result result),state)
  | done => done

def handling (body handler : Program State Result α) : Program State Result α := fun state =>
  match body state with
  | (.error .raised,state) => handler state
  | done => done

def finally_ (body : Program State Result α) (cleanup : State → State) : Program State Result α := fun state =>
  ((body state).1,cleanup (body state).2)

end Program

open Program

theorem bind_ok {first : Program State Result α} {next : α → Program State Result β} {state final : State} {value : β} :
    (first >>= next) state = (.ok value,final) ↔
      ∃ between middle, first state = (.ok between,middle) ∧ next between middle = (.ok value,final) := by
  change first.bind next state = _ ↔ _
  unfold Program.bind
  constructor
  · intro done
    split at done
    · rename_i between middle began
      exact ⟨between,middle,began,done⟩
    · cases done
  · rintro ⟨between,middle,began,done⟩
    rw [began]
    exact done

theorem pure_ok {state final : State} {value result : α} :
    (Pure.pure value : Program State Result α) state = (.ok result,final) ↔ value = result ∧ state = final := by
  change (Except.ok value,state) = (.ok result,final) ↔ _
  simp

theorem modify_ok {change : State → State} {state final : State} :
    (modify change : Program State Result Unit) state = (.ok (),final) ↔ final = change state := by
  change (Except.ok (),change state) = (.ok (),final) ↔ _
  simp [eq_comm]

theorem modify_bind (change : State → State) (next : Unit → Program State Result α) (state : State) :
    (modify change >>= next) state = next () (change state) := rfl

theorem await_ok {outcome : Outcome α} {state final : State} {value : α} :
    (await outcome : Program State Result α) state = (.ok value,final) ↔ outcome = .returned value ∧ final = state := by
  cases outcome with
  | returned given =>
    change (Except.ok given,state) = (.ok value,final) ↔ _
    simp [eq_comm]
  | _ =>
    change (Except.error _,state) = (.ok value,final) ↔ _
    simp

theorem suppress_ok {outcome : Outcome Unit} {state final : State} {value : Unit} :
    (suppress outcome : Program State Result Unit) state = (.ok value,final) ↔ outcome ≠ .cancelled ∧ final = state := by
  cases outcome with
  | cancelled =>
    change (Except.error _,state) = (.ok value,final) ↔ _
    simp
  | _ =>
    change (Except.ok (),state) = (.ok value,final) ↔ _
    simp [eq_comm]

section steps
variable {first : Program State Result α} {next : α → Program State Result β} {body handler : Program State Result α} {state : State}

theorem bind_idle (idle : ∀ value state, (next value state).2 = state) : ((first >>= next) state).2 = (first state).2 := by
  change (first.bind next state).2 = _
  unfold Program.bind
  split
  · rename_i same
    rw [idle,same]
  · rename_i same
    rw [same]

theorem bind_raised (calm : ∀ value state, (next value state).1 ≠ .error .raised) :
    ((first >>= next) state).1 = .error .raised ↔ (first state).1 = .error .raised := by
  change (first.bind next state).1 = _ ↔ _
  unfold Program.bind
  split
  · rename_i same
    rw [same]
    exact ⟨fun raised => absurd raised (calm _ _),fun raised => nomatch raised⟩
  · rename_i same
    rw [same]
    simp

theorem handling_raised (raised : (body state).1 = .error .raised) : handling body handler state = handler (body state).2 := by
  unfold handling
  split
  · rename_i same
    rw [same]
  · rename_i other
    exact absurd (Prod.ext raised rfl : body state = (.error .raised,(body state).2)) (other _)

theorem handling_calm (calm : (body state).1 ≠ .error .raised) : handling body handler state = body state := by
  unfold handling
  split
  · rename_i same
    rw [same] at calm
    exact absurd rfl calm
  · rfl

end steps

def Preserves (Inv : State → Prop) (program : Program State Result α) : Prop := ∀ state, Inv state → Inv (program state).2

variable {Inv : State → Prop}

theorem preserves_pure (value : α) : Preserves Inv (Pure.pure value : Program State Result α) := fun _ holds => holds

theorem preserves_exit (exit : Exit Result) : Preserves Inv (Program.exit exit : Program State Result α) := fun _ holds => holds

theorem preserves_modify {change : State → State} (kept : ∀ state, Inv state → Inv (change state)) :
    Preserves Inv (modify change : Program State Result Unit) := kept

theorem preserves_await (outcome : Outcome α) : Preserves Inv (await outcome : Program State Result α) := by
  cases outcome <;> exact fun _ holds => holds

theorem preserves_suppress (outcome : Outcome Unit) : Preserves Inv (suppress outcome : Program State Result Unit) := by
  cases outcome <;> exact fun _ holds => holds

section
variable {first : Program State Result α} {next : α → Program State Result β}

theorem bind_holds {state : State}
    (left : Inv (first state).2) (right : ∀ value, Preserves Inv (next value)) : Inv ((first >>= next) state).2 := by
  change Inv (first.bind next state).2
  unfold Program.bind
  split
  · rename_i value middle same
    rw [same] at left
    exact right value middle left
  · rename_i exit middle same
    rw [same] at left
    exact left

theorem Preserves.bind (left : Preserves Inv first)
    (right : ∀ value, Preserves Inv (next value)) : Preserves Inv (first >>= next) :=
  fun state holds => bind_holds (left state holds) right

end

theorem catching_state (result : Result) (body : Program State Result α) (state : State) :
    (catching result body state).2 = (body state).2 := by
  unfold catching
  split
  · rename_i same
    rw [same]
  · rfl

theorem Preserves.ite {condition : Prop} [Decidable condition] {first second : Program State Result α}
    (left : condition → Preserves Inv first) (right : ¬condition → Preserves Inv second) :
    Preserves Inv (if condition then first else second) := by
  split
  · exact left ‹_›
  · exact right ‹_›

/-- From this state the program returns as `post` requires, or ends early as `early` requires. -/
def Ends (program : Program State Result α) (state : State) (post : α → State → Prop) (early : State → Prop) : Prop :=
  match program state with
  | (.ok value,final) => post value final
  | (.error _,final) => early final

variable {post : α → State → Prop} {early : State → Prop} {state : State}

theorem ends_pure {value : α} (holds : post value state) : Ends (Pure.pure value : Program State Result α) state post early := holds

theorem ends_modify {change : State → State} {post : Unit → State → Prop} (holds : post () (change state)) :
    Ends (modify change : Program State Result Unit) state post early := holds

theorem ends_await {outcome : Outcome α} (returned : ∀ value, outcome = .returned value → post value state)
    (otherwise : (∀ value, outcome ≠ .returned value) → early state) : Ends (await outcome : Program State Result α) state post early := by
  cases outcome with
  | returned value => exact returned value rfl
  | raised | cancelled => exact otherwise fun value same => by cases same

theorem Ends.bind {first : Program State Result α} {next : α → Program State Result β} {post : β → State → Prop}
    (began : Ends first state (fun value middle => Ends (next value) middle post early) early) : Ends (first >>= next) state post early := by
  change Ends (first.bind next) state post early
  unfold Ends at began
  unfold Ends Program.bind
  split at began
  · exact began
  · exact began

theorem Ends.mono {program : Program State Result α} {weaker : α → State → Prop} {later : State → Prop}
    (ends : Ends program state post early) (returns : ∀ value final, post value final → weaker value final)
    (leaves : ∀ final, early final → later final) : Ends program state weaker later := by
  unfold Ends at ends ⊢
  split at ends
  · exact returns _ _ ends
  · exact leaves _ ends

theorem Ends.ite {condition : Prop} [Decidable condition] {first second : Program State Result α}
    (left : condition → Ends first state post early) (right : ¬condition → Ends second state post early) :
    Ends (if condition then first else second) state post early := by
  split
  · exact left ‹_›
  · exact right ‹_›

end Exits
