import GmsRemoteTest.Lib.Leases

/-! Leases that were taken together. A lease may be bonded to keys; while it is active,
its holder also holds those keys, at least as long. Two holders that are bonded to one
key then exclude each other, whatever else they lease. -/
namespace Leases

structure Terms (Row Holder : Type) where
  holder : Row → Holder
  expiry : Row → Nat

variable {Row Key Id Holder : Type} (view : View Row Key Id) (terms : Terms Row Holder)

/-- `anchor` is held with `row`, and at least as long. -/
structure Anchors (row anchor : Row) : Prop where
  active : view.Active anchor
  holder : terms.holder anchor = terms.holder row
  expiry : terms.expiry row ≤ terms.expiry anchor

def Bonded (bonds : Id → Key → Prop) (rows : List Row) : Prop :=
  ∀ row ∈ rows, view.Active row → ∀ key, bonds (view.id row) key →
    ∃ anchor ∈ rows, view.key anchor = key ∧ Anchors view terms row anchor

variable {view} {terms} {bonds : Id → Key → Prop} {rows : List Row}

section
variable (bonded : Bonded view terms bonds rows)
include bonded

theorem Bonded.same_holder (valid : Valid view rows) {first second : Row}
    (left : first ∈ rows) (right : second ∈ rows) (active : view.Active first) (other : view.Active second) {key : Key}
    (one : bonds (view.id first) key) (two : bonds (view.id second) key) :
    terms.holder first = terms.holder second := by
  obtain ⟨anchor,present,named,anchors⟩ := bonded first left active key one
  obtain ⟨common,there,called,holds⟩ := bonded second right other key two
  have equal : anchor = common := valid.unique present there (named.trans called.symm) anchors.active holds.active
  rw [← anchors.holder,equal,holds.holder]

theorem Bonded.amend {amended : Row → Row}
    (kept : ∀ row ∈ rows, Kept view row (amended row))
    (alike : ∀ row ∈ rows, ∀ anchor ∈ rows, view.Active row → bonds (view.id row) (view.key anchor) →
      Anchors view terms row anchor → view.Active (amended row) →
      Anchors view terms (amended row) (amended anchor)) :
    Bonded view terms bonds (rows.map amended) := by
  intro row present active key bond
  obtain ⟨old,member,rfl⟩ := List.mem_map.mp present
  have keeps := kept old member
  rw [keeps.id] at bond
  obtain ⟨anchor,inside,named,anchors⟩ := bonded old member (keeps.active active) key bond
  refine ⟨amended anchor,List.mem_map_of_mem inside,(kept anchor inside).key.trans named,?_⟩
  refine alike old member anchor inside (keeps.active active) ?_ anchors active
  rw [named]
  exact bond

theorem Bonded.extend {more : Id → Key → Prop} {news : List Row}
    (new : ∀ row ∈ rows++news, view.Active row → ∀ key, more (view.id row) key →
      (row ∈ rows ∧ bonds (view.id row) key) ∨
      ∃ anchor ∈ rows++news, view.key anchor = key ∧ Anchors view terms row anchor) :
    Bonded view terms more (rows++news) := by
  intro row present active key bond
  rcases new row present active key bond with ⟨old,before⟩ | found
  · obtain ⟨anchor,inside,named,anchors⟩ := bonded row old active key before
    exact ⟨anchor,List.mem_append_left _ inside,named,anchors⟩
  · exact found

end

end Leases
