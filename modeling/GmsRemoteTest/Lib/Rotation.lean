import Mathlib.Order.Lattice
import Mathlib.Data.List.Nodup

/-! Turns of a queue whose entries wait in the order of a key. A turn takes an entry that comes no later than any that
waits; as long as its new key puts it behind those that still wait, as many turns as entries waited take different ones.
-/
namespace Rotation

variable {Entry Key : Type} [DecidableEq Entry] [LinearOrder Key]

inductive Turns : (Entry → Key) → List Entry → List Entry → Prop
  | none (key : Entry → Key) (waiting : List Entry) : Turns key waiting []
  | last {key : Entry → Key} {waiting : List Entry} {taken : Entry} (first : ∀ other ∈ waiting, key taken ≤ key other) :
      Turns key waiting [taken]
  | turn {key next : Entry → Key} {waiting : List Entry} {taken : Entry} {takes : List Entry}
      (first : ∀ other ∈ waiting, key taken ≤ key other) (kept : ∀ other, other ≠ taken → next other = key other)
      (behind : ∀ other ∈ waiting, other ≠ taken → next other < next taken)
      (later : Turns next (waiting.erase taken) takes) : Turns key waiting (taken::takes)

section
variable {key : Entry → Key} {waiting takes : List Entry} (turns : Turns key waiting takes)
include turns

theorem Turns.apart (distinct : waiting.Nodup)
    (enough : takes.length ≤ waiting.length) (served : List Entry)
    (behind : ∀ other ∈ waiting, ∀ done ∈ served, key other < key done) :
    takes.Nodup ∧ ∀ taken ∈ takes, taken ∉ served := by
  have fresh : ∀ {key : Entry → Key} {waiting served : List Entry} {taken : Entry}, waiting ≠ [] →
      (∀ other ∈ waiting, key taken ≤ key other) → (∀ other ∈ waiting, ∀ done ∈ served, key other < key done) → taken ∉ served := by
    intro key waiting served taken some first behind member
    obtain ⟨other,waits⟩ := List.exists_mem_of_ne_nil waiting some
    exact (first other waits).not_gt (behind other waits taken member)
  induction turns generalizing served with
  | none key waiting => exact ⟨.nil,fun _ member => nomatch member⟩
  | last first =>
    have some : _ ≠ [] := List.ne_nil_of_length_pos (Nat.lt_of_lt_of_le Nat.zero_lt_one enough)
    refine ⟨List.nodup_singleton _,fun taken member => ?_⟩
    rw [List.mem_singleton.mp member]
    exact fresh some first behind
  | @turn key next waiting taken takes first kept pushed later ih =>
    have some : waiting ≠ [] := List.ne_nil_of_length_pos (Nat.lt_of_lt_of_le (Nat.succ_pos _) enough)
    have free := fresh some first behind
    have length : (waiting.erase taken).length = _ := List.length_erase
    have enough : takes.length ≤ (waiting.erase taken).length := by
      rw [List.length_cons] at enough
      split at length <;> omega
    have after : ∀ other ∈ waiting.erase taken, ∀ done ∈ taken::served, next other < next done := by
      intro other left done member
      obtain ⟨different,waits⟩ := distinct.mem_erase_iff.mp left
      rcases List.mem_cons.mp member with rfl | member
      · exact pushed other waits different
      · rw [kept other different,kept done fun same => free (same ▸ member)]
        exact behind other waits done member
    have rest := ih (distinct.erase taken) enough (taken::served) after
    refine ⟨List.nodup_cons.mpr ⟨fun again => rest.2 taken again (List.mem_cons_self ..),rest.1⟩,?_⟩
    intro other member
    rcases List.mem_cons.mp member with rfl | member
    · exact free
    · exact fun done => rest.2 other member (List.mem_cons_of_mem _ done)

theorem Turns.distinct (nodup : waiting.Nodup)
    (enough : takes.length ≤ waiting.length) : takes.Nodup :=
  (turns.apart nodup enough [] fun _ _ _ member => nomatch member).1

end

end Rotation
