import Mathlib.Data.List.Basic

/-! Programs that call the outside and go on with the answers. A run is what was called and answered, in order, with the result; any answer
may come to any call. -/
namespace Calls

inductive Program (Call : Type) (Reply : Call → Type) (α : Type) : Type
  | done (value : α)
  | ask (call : Call) (next : Reply call → Program Call Reply α)

variable {Call : Type} {Reply : Call → Type} {ε α β : Type}

abbrev Event (Call : Type) (Reply : Call → Type) : Type := (call : Call) × Reply call

namespace Program

def bind : Program Call Reply α → (α → Program Call Reply β) → Program Call Reply β
  | .done value, next => next value
  | .ask call rest, next => .ask call fun reply => (rest reply).bind next

def andThen (program : Program Call Reply (Except ε α)) (next : α → Program Call Reply (Except ε β)) : Program Call Reply (Except ε β) :=
  program.bind fun result => match result with
    | .error failure => .done (.error failure)
    | .ok value => next value

/-- A call that may fail, as a program. -/
def attempt (call : Call) (read : Reply call → Except ε α) : Program Call Reply (Except ε α) := .ask call fun reply => .done (read reply)

inductive Runs : Program Call Reply α → List (Event Call Reply) → α → Prop
  | done (value : α) : Runs (.done value) [] value
  | ask {call : Call} {next : Reply call → Program Call Reply α} (reply : Reply call) {trace : List (Event Call Reply)} {value : α}
      (rest : Runs (next reply) trace value) : Runs (.ask call next) (⟨call,reply⟩ :: trace) value

theorem runs_done {value result : α} {trace : List (Event Call Reply)} :
    (done value : Program Call Reply α).Runs trace result ↔ trace = [] ∧ result = value := by
  constructor
  · rintro ⟨⟩
    exact ⟨rfl,rfl⟩
  · rintro ⟨rfl,rfl⟩
    exact .done _

theorem runs_ask {call : Call} {next : Reply call → Program Call Reply α} {trace : List (Event Call Reply)} {value : α} :
    (ask call next).Runs trace value ↔ ∃ reply rest, trace = ⟨call,reply⟩ :: rest ∧ (next reply).Runs rest value := by
  constructor
  · intro runs
    cases runs with
    | ask reply rest => exact ⟨reply,_,rfl,rest⟩
  · rintro ⟨reply,rest,rfl,runs⟩
    exact .ask reply runs

theorem runs_bind {program : Program Call Reply α} {next : α → Program Call Reply β} {trace : List (Event Call Reply)} {result : β} :
    (program.bind next).Runs trace result ↔
      ∃ first value last, trace = first ++ last ∧ program.Runs first value ∧ (next value).Runs last result := by
  induction program generalizing trace with
  | done value =>
    simp only [runs_done]
    constructor
    · exact fun runs => ⟨[],value,trace,rfl,⟨rfl,rfl⟩,runs⟩
    · rintro ⟨_,_,last,rfl,⟨rfl,rfl⟩,runs⟩
      exact runs
  | ask call rest ih =>
    rw [bind,runs_ask]
    simp only [runs_ask,ih]
    constructor
    · rintro ⟨reply,_,rfl,first,value,last,rfl,before,after⟩
      exact ⟨⟨call,reply⟩ :: first,value,last,rfl,⟨reply,first,rfl,before⟩,after⟩
    · rintro ⟨_,value,last,rfl,⟨reply,first,rfl,before⟩,after⟩
      exact ⟨reply,first ++ last,rfl,first,value,last,rfl,before,after⟩

theorem runs_andThen {program : Program Call Reply (Except ε α)} {next : α → Program Call Reply (Except ε β)}
    {trace : List (Event Call Reply)} {result : Except ε β} :
    (program.andThen next).Runs trace result ↔ (∃ failure, program.Runs trace (.error failure) ∧ result = .error failure) ∨
      ∃ first value last, trace = first ++ last ∧ program.Runs first (.ok value) ∧ (next value).Runs last result := by
  unfold andThen
  rw [runs_bind]
  constructor
  · rintro ⟨first,value,last,rfl,before,after⟩
    cases value with
    | error failure =>
      obtain ⟨rfl,rfl⟩ := runs_done.mp after
      exact .inl ⟨failure,by rwa [List.append_nil],rfl⟩
    | ok value => exact .inr ⟨first,value,last,rfl,before,after⟩
  · rintro (⟨failure,before,rfl⟩ | ⟨first,value,last,rfl,before,after⟩)
    · exact ⟨trace,.error failure,[],(List.append_nil _).symm,before,.done _⟩
    · exact ⟨first,.ok value,last,rfl,before,after⟩

theorem runs_attempt {call : Call} {read : Reply call → Except ε α} {trace : List (Event Call Reply)} {result : Except ε α} :
    (attempt call read).Runs trace result ↔ ∃ reply, trace = [⟨call,reply⟩] ∧ result = read reply := by
  unfold attempt
  rw [runs_ask]
  simp only [runs_done]
  constructor
  · rintro ⟨reply,_,rfl,rfl,rfl⟩
    exact ⟨reply,rfl,rfl⟩
  · rintro ⟨reply,rfl,rfl⟩
    exact ⟨reply,[],rfl,rfl,rfl⟩

def replay [DecidableEq Call] : Program Call Reply α → List (Event Call Reply) → Option α
  | .done value, [] => some value
  | .done _, _ :: _ => none
  | .ask _ _, [] => none
  | .ask call next, ⟨made,reply⟩ :: trace => if same : made = call then (next (same ▸ reply)).replay trace else none

theorem runs_of_replay [DecidableEq Call] {program : Program Call Reply α} {trace : List (Event Call Reply)} {value : α}
    (replayed : program.replay trace = some value) : program.Runs trace value := by
  induction program generalizing trace with
  | done result =>
    cases trace with
    | nil => exact Option.some.inj replayed ▸ .done result
    | cons event trace => cases replayed
  | ask call next ih =>
    cases trace with
    | nil => cases replayed
    | cons event trace =>
      obtain ⟨made,reply⟩ := event
      unfold replay at replayed
      split at replayed
      · rename_i same
        subst same
        exact .ask reply (ih reply replayed)
      · cases replayed

def Avoids (bad : Call → Prop) (program : Program Call Reply α) : Prop :=
  ∀ trace value, program.Runs trace value → ∀ event ∈ trace, ¬bad event.1

variable {bad : Call → Prop}

theorem avoids_done (value : α) : (done value : Program Call Reply α).Avoids bad := by
  intro trace result runs event member
  obtain ⟨rfl,_⟩ := runs_done.mp runs
  cases member

theorem avoids_ask {call : Call} {next : Reply call → Program Call Reply α} (good : ¬bad call) (rest : ∀ reply, (next reply).Avoids bad) :
    (ask call next).Avoids bad := by
  intro trace result runs event member
  obtain ⟨reply,tail,rfl,after⟩ := runs_ask.mp runs
  obtain rfl | member := List.mem_cons.mp member
  · exact good
  · exact rest reply tail result after event member

theorem avoids_bind {program : Program Call Reply α} {next : α → Program Call Reply β} (first : program.Avoids bad)
    (rest : ∀ value, (next value).Avoids bad) : (program.bind next).Avoids bad := by
  intro trace result runs event member
  obtain ⟨before,value,after,rfl,left,right⟩ := runs_bind.mp runs
  obtain member | member := List.mem_append.mp member
  · exact first before value left event member
  · exact rest value after result right event member

theorem avoids_andThen {program : Program Call Reply (Except ε α)} {next : α → Program Call Reply (Except ε β)} (first : program.Avoids bad)
    (rest : ∀ value, (next value).Avoids bad) : (program.andThen next).Avoids bad :=
  avoids_bind first fun result => match result with
    | .error _ => avoids_done _
    | .ok value => rest value

theorem avoids_attempt {call : Call} {read : Reply call → Except ε α} (good : ¬bad call) :
    (attempt call read : Program Call Reply (Except ε α)).Avoids bad := avoids_ask good fun _ => avoids_done _

end Program

end Calls
