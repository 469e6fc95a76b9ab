import Mathlib.Data.List.Basic

/-! Processes in a list, each holding at most one lock. A lock is taken only while nobody holds it,
so two processes that hold the same lock are the same process. -/
namespace Sections

variable {Process Lock : Type} (lock : Process → Option Lock)

def Exclusive (processes : List Process) : Prop :=
  ∀ (i j : Nat) first second held, processes[i]? = some first → processes[j]? = some second → lock first = some held →
    lock second = some held → i = j

variable {lock} {processes : List Process}

theorem Exclusive.nil : Exclusive lock [] := by
  intro i j first second held found
  cases found

section
variable (exclusive : Exclusive lock processes)
include exclusive

theorem Exclusive.append {process : Process} (free : lock process = none) :
    Exclusive lock (processes++[process]) := by
  have old : ∀ (i : Nat) found held, (processes++[process])[i]? = some found → lock found = some held → processes[i]? = some found := by
    intro i found held listed holds
    by_cases inside : i < processes.length
    · rw [List.getElem?_append_left inside] at listed
      exact listed
    · rw [List.getElem?_append_right (Nat.le_of_not_lt inside)] at listed
      have member := List.mem_of_getElem? listed
      rw [List.mem_singleton.mp member,free] at holds
      cases holds
  intro i j first second held left right holds keeps
  exact exclusive i j first second held (old i first held left holds) (old j second held right keeps) holds keeps

theorem Exclusive.set {i : Nat} {process next : Process} (found : processes[i]? = some process)
    (fewer : ∀ held, lock next = some held → lock process = some held) : Exclusive lock (processes.set i next) := by
  have old : ∀ (j : Nat) after held, (processes.set i next)[j]? = some after → lock after = some held →
      ∃ before, processes[j]? = some before ∧ lock before = some held := by
    intro j after held listed holds
    rw [List.getElem?_set] at listed
    split at listed
    · rename_i same
      split at listed
      · cases listed
        rw [← same]
        exact ⟨process,found,fewer held holds⟩
      · cases listed
    · exact ⟨after,listed,holds⟩
  intro j k first second held left right holds keeps
  obtain ⟨one,there,own⟩ := old j first held left holds
  obtain ⟨two,here,kept⟩ := old k second held right keeps
  exact exclusive j k one two held there here own kept

theorem Exclusive.enter {i : Nat} {next : Process} {taken : Lock}
    (free : ∀ other ∈ processes, lock other ≠ some taken) (takes : lock next = some taken) :
    Exclusive lock (processes.set i next) := by
  have old : ∀ (j : Nat) after held, (processes.set i next)[j]? = some after → lock after = some held →
      j = i ∧ held = taken ∨ processes[j]? = some after ∧ held ≠ taken := by
    intro j after held listed holds
    rw [List.getElem?_set] at listed
    split at listed
    · rename_i same
      split at listed
      · cases listed
        rw [takes] at holds
        exact .inl ⟨same.symm,(Option.some.inj holds).symm⟩
      · cases listed
    · refine .inr ⟨listed,?_⟩
      rintro rfl
      exact free after (List.mem_of_getElem? listed) holds
  intro j k first second held left right holds keeps
  obtain ⟨here,same⟩ | ⟨there,other⟩ := old j first held left holds
  · obtain ⟨also,_⟩ | ⟨_,other⟩ := old k second held right keeps
    · rw [here,also]
    · exact absurd same other
  · obtain ⟨_,same⟩ | ⟨again,_⟩ := old k second held right keeps
    · exact absurd same other
    · exact exclusive j k first second held there again holds keeps

end

theorem forall_set {holds : Process → Prop} {i : Nat} {next : Process}
    (others : ∀ (j : Nat) process, j ≠ i → processes[j]? = some process → holds process) (new : holds next) :
    ∀ process ∈ processes.set i next, holds process := by
  intro process member
  obtain ⟨j,listed⟩ := List.mem_iff_getElem?.mp member
  rw [List.getElem?_set] at listed
  split at listed
  · split at listed
    · rw [← Option.some.inj listed]
      exact new
    · cases listed
  · rename_i different
    exact others j process (Ne.symm different) listed

end Sections
