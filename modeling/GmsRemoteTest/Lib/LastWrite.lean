import Mathlib.Logic.Basic

/-! Writers of a store that is read and written back in larger parts than the entries a writer changes. A write
sets some entries and puts others back as its writer read them; it loses an update when one of these has
changed since. -/
namespace LastWrite

variable {Entry : Type} {Value : Entry → Type}

abbrev Store (Value : Entry → Type) := ∀ entry, Option (Value entry)

structure Write (Value : Entry → Type) where
  base : Store Value
  sets : ∀ entry, Option (Option (Value entry))
  backs : Entry → Bool

def Write.result (write : Write Value) (store : Store Value) : Store Value := fun entry =>
  (write.sets entry).getD (if write.backs entry then write.base entry else store entry)

def Write.alone (write : Write Value) (store : Store Value) : Store Value := fun entry =>
  (write.sets entry).getD (store entry)

def Write.Current (write : Write Value) (store : Store Value) : Prop :=
  ∀ entry, write.backs entry = true → write.sets entry = none → write.base entry = store entry

theorem Write.result_eq_alone_iff (write : Write Value) (store : Store Value) :
    write.result store = write.alone store ↔ write.Current store := by
  constructor
  · intro same entry backs unset
    have there := congrFun same entry
    simpa [result,alone,backs,unset] using there
  · intro current
    funext entry
    unfold result alone
    cases unset : write.sets entry with
    | some value => rfl
    | none =>
      rw [Option.getD_none,Option.getD_none]
      split
      · rename_i backs
        exact current entry backs unset
      · rfl

def last (initial : Store Value) : List (Write Value) → Store Value
  | [] => initial
  | write :: earlier => write.alone (last initial earlier)

theorem result_eq_last {initial store : Store Value} {earlier : List (Write Value)} (write : Write Value)
    (held : store = last initial earlier) (current : write.Current store) :
    write.result store = last initial (write :: earlier) := by
  rw [last,← held]
  exact (write.result_eq_alone_iff store).mpr current

end LastWrite
