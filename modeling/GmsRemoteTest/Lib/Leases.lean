import Mathlib.Data.List.Pairwise
import Mathlib.Data.List.Nodup

/-! Exclusive leases with fencing generations, over any row type. A table changes by
amending rows in place and by issuing rows for vacant keys; from these two steps come
exclusivity, growing generations, and that a fencing token never matches again once lost. -/
namespace Leases

structure View (Row Key Id : Type) where
  id : Row → Id
  key : Row → Key
  generation : Row → Int
  Active : Row → Prop

variable {Row Key Id : Type} (view : View Row Key Id)

/-- An amended row keeps its identity, key and generation, and never becomes active. -/
structure Kept (old new : Row) : Prop where
  id : view.id new = view.id old
  key : view.key new = view.key old
  generation : view.generation new = view.generation old
  active : view.Active new → view.Active old

inductive Step : List Row → List Row → Prop
  | amend (rows : List Row) (amended : Row → Row) (kept : ∀ row ∈ rows, Kept view row (amended row)) :
      Step rows (rows.map amended)
  | issue (rows : List Row) (row : Row)
      (vacant : ∀ old ∈ rows, view.key old = view.key row →
        ¬ view.Active old ∧ view.generation old < view.generation row)
      (fresh : ∀ old ∈ rows, view.id old ≠ view.id row) :
      Step rows (rows++[row])

abbrev Evolves : List Row → List Row → Prop := Relation.ReflTransGen (Step view)

def Exclusive (rows : List Row) : Prop :=
  rows.Pairwise fun first second => view.key first = view.key second →
    ¬ (view.Active first ∧ view.Active second)

def Increasing (rows : List Row) : Prop :=
  rows.Pairwise fun first second => view.key first = view.key second →
    view.generation first < view.generation second

def Identified (rows : List Row) : Prop :=
  rows.Pairwise fun first second => view.id first ≠ view.id second

/-- The fencing token `(id, generation)` is that of the active lease of `key`. -/
def Matches (rows : List Row) (key : Key) (id : Id) (generation : Int) : Prop :=
  ∃ row ∈ rows, view.Active row ∧ view.key row = key ∧ view.id row = id ∧ view.generation row = generation

structure Valid (rows : List Row) : Prop where
  exclusive : Exclusive view rows
  increasing : Increasing view rows
  identified : Identified view rows

variable {view} {rows later : List Row}

theorem Kept.refl (row : Row) : Kept view row row := ⟨rfl,rfl,rfl,fun active => active⟩

theorem Kept.trans {first second third : Row} (left : Kept view first second) (right : Kept view second third) :
    Kept view first third :=
  ⟨right.id.trans left.id,right.key.trans left.key,right.generation.trans left.generation,
    fun active => left.active (right.active active)⟩

theorem Valid.nil : Valid view [] := ⟨.nil,.nil,.nil⟩

private theorem pairwise_amend {relation : Row → Row → Prop} {amended : Row → Row}
    (kept : ∀ row ∈ rows, Kept view row (amended row))
    (keeps : ∀ first second, Kept view first (amended first) → Kept view second (amended second) →
      relation first second → relation (amended first) (amended second))
    (holds : rows.Pairwise relation) : (rows.map amended).Pairwise relation := by
  rw [List.pairwise_map]
  exact holds.imp_of_mem fun left right related => keeps _ _ (kept _ left) (kept _ right) related

private theorem pairwise_issue {relation : Row → Row → Prop} {row : Row}
    (holds : rows.Pairwise relation) (last : ∀ old ∈ rows, relation old row) :
    (rows++[row]).Pairwise relation := by
  rw [List.pairwise_append]
  refine ⟨holds,List.pairwise_singleton _ _,?_⟩
  intro old member new present
  rw [List.mem_singleton.mp present]
  exact last old member

/-- What the constraints of a table say: an id is that of one row, and no two active rows have one key. -/
structure Keyed (view : View Row Key Id) (rows : List Row) : Prop where
  exclusive : Exclusive view rows
  identified : Identified view rows

theorem Valid.keyed (valid : Valid view rows) : Keyed view rows := ⟨valid.exclusive,valid.identified⟩

theorem Keyed.amend (keyed : Keyed view rows) {amended : Row → Row} (kept : ∀ row ∈ rows, Kept view row (amended row)) :
    Keyed view (rows.map amended) := by
  refine ⟨pairwise_amend kept ?_ keyed.exclusive,pairwise_amend kept ?_ keyed.identified⟩
  · intro first second left right apart same active
    exact apart (by rw [← left.key,← right.key,same]) ⟨left.active active.1,right.active active.2⟩
  · intro first second left right different
    rw [left.id,right.id]
    exact different

theorem Step.keyed (step : Step view rows later) (keyed : Keyed view rows) : Keyed view later := by
  cases step with
  | amend amended kept => exact keyed.amend kept
  | issue row vacant fresh =>
    refine ⟨pairwise_issue keyed.exclusive ?_,pairwise_issue keyed.identified fresh⟩
    intro old member same active
    exact (vacant old member same).1 active.1

theorem Evolves.keyed (evolves : Evolves view rows later) (keyed : Keyed view rows) : Keyed view later := by
  induction evolves with
  | refl => exact keyed
  | tail _ step ih => exact step.keyed ih

theorem Step.valid (step : Step view rows later) (valid : Valid view rows) : Valid view later := by
  have keyed := step.keyed valid.keyed
  refine ⟨keyed.exclusive,?_,keyed.identified⟩
  cases step with
  | amend amended kept =>
    refine pairwise_amend kept ?_ valid.increasing
    intro first second left right grows same
    rw [left.generation,right.generation]
    exact grows (by rw [← left.key,← right.key,same])
  | issue row vacant fresh =>
    refine pairwise_issue valid.increasing ?_
    intro old member same
    exact (vacant old member same).2

theorem Evolves.valid (evolves : Evolves view rows later) (valid : Valid view rows) : Valid view later := by
  induction evolves with
  | refl => exact valid
  | tail _ step ih => exact step.valid ih

theorem Evolves.survives (evolves : Evolves view rows later) {row : Row} (member : row ∈ rows) :
    ∃ current ∈ later, Kept view row current := by
  induction evolves with
  | refl => exact ⟨row,member,.refl row⟩
  | tail _ step ih =>
    obtain ⟨current,present,kept⟩ := ih
    cases step with
    | amend amended amends =>
      exact ⟨amended current,List.mem_map_of_mem present,kept.trans (amends current present)⟩
    | issue row vacant fresh => exact ⟨current,by simp [present],kept⟩

section
variable (keyed : Keyed view rows) {first second : Row} (left : first ∈ rows) (right : second ∈ rows)
include keyed left right

theorem Keyed.eq_of_id (same : view.id first = view.id second) : first = second := by
  have symmetric : Std.Symm fun first second => view.id first ≠ view.id second :=
    ⟨fun _ _ different => Ne.symm different⟩
  by_contra different
  exact List.Pairwise.forall keyed.identified left right different same

theorem Keyed.unique (same : view.key first = view.key second)
    (active : view.Active first) (other : view.Active second) : first = second := by
  have symmetric : Std.Symm fun first second => view.key first = view.key second →
      ¬ (view.Active first ∧ view.Active second) :=
    ⟨fun _ _ apart equal both => apart equal.symm ⟨both.2,both.1⟩⟩
  by_contra different
  exact List.Pairwise.forall keyed.exclusive left right different same ⟨active,other⟩

end

section
variable (valid : Valid view rows) {first second : Row} (left : first ∈ rows) (right : second ∈ rows)
include valid left right

theorem Valid.eq_of_id (same : view.id first = view.id second) : first = second :=
  valid.keyed.eq_of_id left right same

theorem Valid.unique (same : view.key first = view.key second)
    (active : view.Active first) (other : view.Active second) : first = second :=
  valid.keyed.unique left right same active other

end

theorem Evolves.retired (evolves : Evolves view rows later) (valid : Valid view rows) {row current : Row}
    (member : row ∈ rows) (inactive : ¬ view.Active row) (present : current ∈ later)
    (same : view.id current = view.id row) : ¬ view.Active current := by
  obtain ⟨survivor,alive,kept⟩ := evolves.survives member
  have equal : current = survivor :=
    (evolves.valid valid).eq_of_id present alive (same.trans kept.id.symm)
  subst equal
  exact fun active => inactive (kept.active active)

theorem Evolves.token_lost {middle : List Row} (first : Evolves view rows middle)
    (second : Evolves view middle later) (valid : Valid view rows) {key : Key} {id : Id} {generation : Int}
    (matched : Matches view rows key id generation) (lost : ¬ Matches view middle key id generation) :
    ¬ Matches view later key id generation := by
  obtain ⟨row,member,active,rfl,rfl,rfl⟩ := matched
  obtain ⟨kept,present,keeps⟩ := first.survives member
  have inactive : ¬ view.Active kept :=
    fun alive => lost ⟨kept,present,alive,keeps.key,keeps.id,keeps.generation⟩
  rintro ⟨current,there,alive,_,same,_⟩
  exact second.retired (first.valid valid) present inactive there (same.trans keeps.id.symm) alive

end Leases
