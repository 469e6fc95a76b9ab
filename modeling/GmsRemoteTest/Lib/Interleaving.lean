import Mathlib.Logic.Function.Basic
import GmsRemoteTest.Lib.Runs

/-! Calls that run side by side over a shared state. A step of one changes the shared state and its own point. What
holds of the shared state, of each call and of any two calls is kept in every run when each step keeps it for the call
that takes it and for every other one. -/
namespace Interleaving

structure System (Shared Task Answer Change : Type) where
  idle : Task
  /-- The points at which a call may begin. -/
  begins : Task → Prop
  /-- The next step of a call; the answer is what it reads from elsewhere. -/
  act : Shared → Task → Answer → Shared × Task
  /-- What happens to the shared state without a call. -/
  change : Shared → Change → Shared

structure World (Shared Task : Type) where
  shared : Shared
  tasks : Nat → Task

inductive Event (Task Answer Change : Type)
  | enter (caller : Nat) (task : Task)
  | advance (caller : Nat) (answer : Answer)
  | leave (caller : Nat)
  | outside (change : Change)

variable {Shared Task Answer Change : Type}

namespace System
variable (system : System Shared Task Answer Change)

def start (shared : Shared) : World Shared Task := ⟨shared,fun _ => system.idle⟩

/-- A call begins, takes its next step or ends before its time, or the shared state changes. -/
def apply (event : Event Task Answer Change) (world : World Shared Task) : World Shared Task :=
  match event with
  | .enter caller task => {world with tasks := Function.update world.tasks caller task}
  | .advance caller answer =>
    let result := system.act world.shared (world.tasks caller) answer
    ⟨result.1,Function.update world.tasks caller result.2⟩
  | .leave caller => {world with tasks := Function.update world.tasks caller system.idle}
  | .outside change => {world with shared := system.change world.shared change}

/-- Runs in which a call begins only where it may, and each step meets the guard. -/
def Permitted (guard : Shared → Task → Answer → Prop) (world : World Shared Task) : Event Task Answer Change → Prop
  | .enter _ task => system.begins task
  | .advance caller answer => guard world.shared (world.tasks caller) answer
  | _ => True

/-- `Inv` of the shared state, `Own` of each call and `Apart` of any two calls are kept. -/
structure Rules (guard : Shared → Task → Answer → Prop) (Inv : Shared → Prop) (Own : Shared → Task → Prop)
    (Apart : Task → Task → Prop) : Prop where
  idle : ∀ shared, Own shared system.idle
  begins : ∀ shared task, Inv shared → system.begins task → Own shared task
  symm : ∀ first second, Apart first second → Apart second first
  alone : ∀ task other, task = system.idle ∨ system.begins task → Apart task other
  keeps : ∀ shared task answer, Inv shared → Own shared task → guard shared task answer →
    Inv (system.act shared task answer).1 ∧ Own (system.act shared task answer).1 (system.act shared task answer).2
  others : ∀ shared task answer other, Inv shared → Own shared task → guard shared task answer → Own shared other → Apart task other →
    Own (system.act shared task answer).1 other ∧ Apart (system.act shared task answer).2 other
  outside : ∀ shared change, Inv shared → Inv (system.change shared change) ∧
    ∀ task, Own shared task → Own (system.change shared change) task

end System

structure Holds (Inv : Shared → Prop) (Own : Shared → Task → Prop) (Apart : Task → Task → Prop) (world : World Shared Task) : Prop where
  shared : Inv world.shared
  own : ∀ caller, Own world.shared (world.tasks caller)
  apart : ∀ caller other, caller ≠ other → Apart (world.tasks caller) (world.tasks other)

variable {system : System Shared Task Answer Change} {guard : Shared → Task → Answer → Prop} {Inv : Shared → Prop}
  {Own : Shared → Task → Prop} {Apart : Task → Task → Prop}

theorem Holds.move {world : World Shared Task} (holds : Holds Inv Own Apart world) (symm : ∀ first second, Apart first second → Apart second first)
    (caller : Nat) {shared : Shared} {task : Task} (inv : Inv shared) (own : Own shared task)
    (others : ∀ other, other ≠ caller → Own shared (world.tasks other) ∧ Apart task (world.tasks other)) :
    Holds Inv Own Apart ⟨shared,Function.update world.tasks caller task⟩ := by
  refine ⟨inv,fun other => ?_,fun first second different => ?_⟩
  · by_cases same : other = caller
    · rw [same]
      simpa using own
    · simpa [Function.update_of_ne same] using (others other same).1
  · by_cases left : first = caller
    · have right : second ≠ caller := fun same => different (left.trans same.symm)
      rw [left]
      simpa [Function.update_of_ne right] using (others second right).2
    · by_cases right : second = caller
      · rw [right]
        simpa [Function.update_of_ne left] using symm _ _ (others first left).2
      · simpa [Function.update_of_ne left,Function.update_of_ne right] using holds.apart first second different

section
variable (rules : system.Rules guard Inv Own Apart)
include rules

theorem System.Rules.apply {world : World Shared Task} (holds : Holds Inv Own Apart world)
    {event : Event Task Answer Change} (permitted : system.Permitted guard world event) : Holds Inv Own Apart (system.apply event world) := by
  cases event with
  | enter caller task =>
    exact holds.move rules.symm caller holds.shared (rules.begins _ _ holds.shared permitted) fun other _ =>
      ⟨holds.own other,rules.alone _ _ (.inr permitted)⟩
  | advance caller answer =>
    obtain ⟨inv,own⟩ := rules.keeps _ _ answer holds.shared (holds.own caller) permitted
    exact holds.move rules.symm caller inv own fun other different =>
      rules.others _ _ answer _ holds.shared (holds.own caller) permitted (holds.own other) (holds.apart caller other different.symm)
  | leave caller =>
    exact holds.move rules.symm caller holds.shared (rules.idle _) fun other _ => ⟨holds.own other,rules.alone _ _ (.inl rfl)⟩
  | outside change =>
    obtain ⟨inv,own⟩ := rules.outside _ change holds.shared
    exact ⟨inv,fun caller => own _ (holds.own caller),holds.apart⟩

theorem System.Rules.start {shared : Shared} (inv : Inv shared) :
    Holds Inv Own Apart (system.start shared) :=
  ⟨inv,fun _ => rules.idle shared,fun _ _ _ => rules.alone _ _ (.inl rfl)⟩

theorem System.Rules.reached {initial world : World Shared Task}
    (holds : Holds Inv Own Apart initial) (reached : Runs.Reached system.apply (system.Permitted guard) initial world) :
    Holds Inv Own Apart world :=
  reached.invariant _ holds fun _ _ before permitted => rules.apply before permitted

theorem System.Rules.stable {Stable : Shared → Prop}
    (acts : ∀ shared task answer, Inv shared → Own shared task → guard shared task answer → Stable shared →
      Stable (system.act shared task answer).1)
    (changes : ∀ shared change, Stable shared → Stable (system.change shared change)) {initial world : World Shared Task}
    (holds : Holds Inv Own Apart initial) (stable : Stable initial.shared)
    (reached : Runs.Reached system.apply (system.Permitted guard) initial world) : Stable world.shared := by
  refine (reached.invariant (fun world => Holds Inv Own Apart world ∧ Stable world.shared) ⟨holds,stable⟩ ?_).2
  rintro before event ⟨holds,stable⟩ permitted
  refine ⟨rules.apply holds permitted,?_⟩
  cases event with
  | enter caller task => exact stable
  | advance caller answer => exact acts _ _ answer holds.shared (holds.own caller) permitted stable
  | leave caller => exact stable
  | outside change => exact changes _ change stable

end

end Interleaving
