import Mathlib.Data.List.Forall2

/-! Lists whose members are read one by one, the first failure ending the reading. -/
namespace Mapped

variable {ε α β : Type}

theorem mapM_ok {read : α → Except ε β} {items : List α} {results : List β} :
    items.mapM read = .ok results ↔ List.Forall₂ (fun item result => read item = .ok result) items results := by
  induction items generalizing results with
  | nil =>
    rw [List.mapM_nil,List.forall₂_nil_left_iff]
    exact ⟨fun same => (Except.ok.inj same).symm,fun same => congrArg _ same.symm⟩
  | cons item items ih =>
    rw [List.mapM_cons,List.forall₂_cons_left_iff]
    cases first : read item with
    | error failure =>
      refine ⟨nofun,?_⟩
      rintro ⟨_,_,read,_⟩
      cases read
    | ok result =>
      cases rest : items.mapM read with
      | error failure =>
        refine ⟨fun ran => ?_,?_⟩
        · simp only [bind,Except.bind] at ran
          cases ran
        · rintro ⟨_,others,_,all,_⟩
          rw [ih.mpr all] at rest
          cases rest
      | ok others =>
        constructor
        · intro ran
          simp only [bind,Except.bind] at ran
          cases ran
          exact ⟨result,others,rfl,ih.mp rest,rfl⟩
        · rintro ⟨_,_,⟨⟩,all,rfl⟩
          have same := ih.mpr all
          rw [rest] at same
          cases same
          simp only [bind,Except.bind]
          rfl

theorem mapM_mem {read : α → Except ε β} {items : List α} {results : List β} (ran : items.mapM read = .ok results) {item : α} (member : item ∈ items) :
    ∃ result, read item = .ok result := by
  have all := mapM_ok.mp ran
  clear ran
  induction all with
  | nil => cases member
  | cons first _ ih =>
    obtain rfl | member := List.mem_cons.mp member
    · exact ⟨_,first⟩
    · exact ih member

theorem forall₂_right {R : α → β → Prop} {items : List α} {results : List β} (all : List.Forall₂ R items results) {result : β}
    (member : result ∈ results) : ∃ item ∈ items, R item result := by
  induction all with
  | nil => cases member
  | cons first _ ih =>
    obtain rfl | member := List.mem_cons.mp member
    · exact ⟨_,List.mem_cons_self,first⟩
    · obtain ⟨item,inside,related⟩ := ih member
      exact ⟨item,List.mem_cons_of_mem _ inside,related⟩

end Mapped
