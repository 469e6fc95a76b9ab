import Mathlib.Data.List.Forall2

/-! Conjunctions and disjunctions of any depth over leaves that may be unknown. The value of strong Kleene logic is the one that every
completion of the unknown leaves has. -/
namespace Kleene

inductive Mode
  | all
  | any
deriving DecidableEq

def Mode.stop : Mode → Bool
  | .all => false
  | .any => true

def Mode.join : Mode → List Bool → Bool
  | .all, values => values.all id
  | .any, values => values.any id

def Mode.strong (mode : Mode) (values : List (Option Bool)) : Option Bool :=
  if some mode.stop ∈ values then some mode.stop else if none ∈ values then none else some !mode.stop

theorem Mode.join_eq_stop {mode : Mode} {values : List Bool} : mode.join values = mode.stop ↔ mode.stop ∈ values := by
  cases mode with
  | all | any => simp [join,stop]

inductive Formula (α : Type)
  | leaf (value : α)
  | join (mode : Mode) (terms : List (Formula α))

variable {α β γ : Type}

theorem Formula.induct {motive : Formula α → Prop} (leaf : ∀ value, motive (.leaf value))
    (join : ∀ mode terms, (∀ term ∈ terms, motive term) → motive (.join mode terms)) : ∀ formula, motive formula
  | .leaf value => leaf value
  | .join mode terms => join mode terms fun term _ => induct leaf join term

mutual
def Formula.map (f : α → β) : Formula α → Formula β
  | .leaf value => .leaf (f value)
  | .join mode terms => .join mode (Formula.mapAll f terms)
def Formula.mapAll (f : α → β) : List (Formula α) → List (Formula β)
  | [] => []
  | term :: terms => term.map f :: Formula.mapAll f terms
end

mutual
def Formula.leaves : Formula α → List α
  | .leaf value => [value]
  | .join _ terms => Formula.leavesAll terms
def Formula.leavesAll : List (Formula α) → List α
  | [] => []
  | term :: terms => term.leaves ++ Formula.leavesAll terms
end

mutual
def Formula.eval : Formula Bool → Bool
  | .leaf value => value
  | .join mode terms => mode.join (Formula.evalAll terms)
def Formula.evalAll : List (Formula Bool) → List Bool
  | [] => []
  | term :: terms => term.eval :: Formula.evalAll terms
end

mutual
def Formula.strong : Formula (Option Bool) → Option Bool
  | .leaf value => value
  | .join mode terms => mode.strong (Formula.strongAll terms)
def Formula.strongAll : List (Formula (Option Bool)) → List (Option Bool)
  | [] => []
  | term :: terms => term.strong :: Formula.strongAll terms
end

theorem Formula.mapAll_eq (f : α → β) (terms : List (Formula α)) : mapAll f terms = terms.map (map f) := by
  induction terms with
  | nil => rfl
  | cons term terms ih => exact congrArg (term.map f :: ·) ih

theorem Formula.leavesAll_eq (terms : List (Formula α)) : leavesAll terms = terms.flatMap leaves := by
  induction terms with
  | nil => rfl
  | cons term terms ih => exact congrArg (term.leaves ++ ·) ih

theorem Formula.evalAll_eq (terms : List (Formula Bool)) : evalAll terms = terms.map eval := by
  induction terms with
  | nil => rfl
  | cons term terms ih => exact congrArg (term.eval :: ·) ih

theorem Formula.strongAll_eq (terms : List (Formula (Option Bool))) : strongAll terms = terms.map strong := by
  induction terms with
  | nil => rfl
  | cons term terms ih => exact congrArg (term.strong :: ·) ih

@[simp] theorem Formula.map_leaf (f : α → β) (value : α) : (leaf value).map f = leaf (f value) := rfl

@[simp] theorem Formula.map_join (f : α → β) (mode : Mode) (terms : List (Formula α)) :
    (join mode terms).map f = join mode (terms.map (map f)) :=
  congrArg (join mode) (mapAll_eq f terms)

@[simp] theorem Formula.eval_leaf (value : Bool) : (leaf value).eval = value := rfl

@[simp] theorem Formula.eval_join (mode : Mode) (terms : List (Formula Bool)) : (join mode terms).eval = mode.join (terms.map eval) :=
  congrArg mode.join (evalAll_eq terms)

@[simp] theorem Formula.strong_leaf (value : Option Bool) : (leaf value).strong = value := rfl

@[simp] theorem Formula.strong_join (mode : Mode) (terms : List (Formula (Option Bool))) :
    (join mode terms).strong = mode.strong (terms.map strong) := congrArg mode.strong (strongAll_eq terms)

@[simp] theorem Formula.leaves_leaf (value : α) : (leaf value).leaves = [value] := rfl

@[simp] theorem Formula.leaves_join (mode : Mode) (terms : List (Formula α)) : (join mode terms).leaves = terms.flatMap leaves :=
  leavesAll_eq terms

theorem Formula.mem_leaves_join {mode : Mode} {terms : List (Formula α)} {value : α} :
    value ∈ (join mode terms).leaves ↔ ∃ term ∈ terms, value ∈ term.leaves := by
  rw [leaves_join,List.mem_flatMap]

theorem Formula.map_map (f : α → β) (g : β → γ) (formula : Formula α) : (formula.map f).map g = formula.map (g ∘ f) := by
  induction formula using Formula.induct with
  | leaf value => simp
  | join mode terms ih =>
    simp only [map_join,List.map_map]
    exact congrArg _ (List.map_congr_left ih)

theorem Formula.map_id (formula : Formula α) : formula.map id = formula := by
  induction formula using Formula.induct with
  | leaf value => simp
  | join mode terms ih =>
    rw [map_join]
    exact congrArg _ ((List.map_congr_left ih).trans (List.map_id' terms))

/-- A leaf beside the guess that stands for it where it is unknown. -/
def complete : Option Bool × Bool → Bool
  | (value,guess) => value.getD guess

theorem Formula.eval_complete {formula : Formula (Option Bool × Bool)} {value : Bool} (known : (formula.map Prod.fst).strong = some value) :
    (formula.map complete).eval = value := by
  induction formula using Formula.induct generalizing value with
  | leaf pair =>
    obtain ⟨leaf,guess⟩ := pair
    simp only [map_leaf,strong_leaf] at known
    rw [map_leaf,eval_leaf,complete,known]
    rfl
  | join mode terms ih =>
    simp only [map_join,strong_join,List.map_map] at known
    rw [map_join,eval_join,List.map_map]
    unfold Mode.strong at known
    split at known
    · rename_i settled
      cases known
      obtain ⟨term,member,same⟩ := List.mem_map.mp settled
      exact Mode.join_eq_stop.mpr (List.mem_map.mpr ⟨term,member,ih term member same⟩)
    · rename_i unsettled
      split at known
      · cases known
      rename_i all
      cases known
      have other : mode.stop ∉ terms.map (eval ∘ map complete) := by
        intro member
        obtain ⟨term,inside,stop⟩ := List.mem_map.mp member
        cases value : (term.map Prod.fst).strong with
        | none => exact all (List.mem_map.mpr ⟨term,inside,value⟩)
        | some known =>
          have same := ih term inside value
          have stop : (term.map complete).eval = mode.stop := stop
          rw [same] at stop
          exact unsettled (List.mem_map.mpr ⟨term,inside,value.trans (congrArg some stop)⟩)
      exact Bool.eq_not.mpr (mt Mode.join_eq_stop.mp other)

theorem Formula.eval_unknown {formula : Formula (Option Bool)} (unknown : formula.strong = none) (guess : Bool) :
    (formula.map fun value => value.getD guess).eval = guess := by
  induction formula using Formula.induct with
  | leaf value =>
    rw [strong_leaf] at unknown
    rw [map_leaf,eval_leaf,unknown]
    rfl
  | join mode terms ih =>
    rw [strong_join] at unknown
    rw [map_join,eval_join,List.map_map]
    unfold Mode.strong at unknown
    split at unknown
    · cases unknown
    rename_i unsettled
    split at unknown
    swap
    · cases unknown
    rename_i member
    have known : ∀ (term : Formula (Option Bool)) (value : Bool), term.strong = some value → (term.map fun value => value.getD guess).eval = value := by
      intro term value same
      have pair : (term.map fun value => (value,guess)).map Prod.fst = term := by
        rw [map_map]
        exact map_id term
      have complete := eval_complete (by rw [pair]; exact same)
      rwa [map_map] at complete
    by_cases stop : guess = mode.stop
    · obtain ⟨term,inside,none_⟩ := List.mem_map.mp member
      rw [stop,Mode.join_eq_stop,← stop]
      exact List.mem_map.mpr ⟨term,inside,ih term inside none_⟩
    · rw [Bool.eq_not.mpr stop]
      refine Bool.eq_not.mpr (mt Mode.join_eq_stop.mp fun inside => ?_)
      obtain ⟨term,inside,same⟩ := List.mem_map.mp inside
      rw [← Bool.eq_not.mpr stop] at same
      cases value : term.strong with
      | none => exact stop ((ih term inside value).symm.trans same)
      | some value_ =>
        have equal : value_ = mode.stop := (known term value_ value).symm.trans same
        exact unsettled (List.mem_map.mpr ⟨term,inside,value.trans (congrArg some equal)⟩)

theorem Formula.strong_eq_some {formula : Formula (Option Bool)} {value : Bool} :
    formula.strong = some value ↔
      ∀ completion : Formula (Option Bool × Bool), completion.map Prod.fst = formula → (completion.map complete).eval = value := by
  constructor
  · rintro known completion rfl
    exact eval_complete known
  · intro all
    have guessed : ∀ guess, (formula.map fun leaf => leaf.getD guess).eval = value := by
      intro guess
      have same := all (formula.map fun leaf => (leaf,guess)) ((map_map _ _ _).trans (map_id formula))
      rwa [map_map] at same
    cases known : formula.strong with
    | none => exact absurd ((eval_unknown known !value).symm.trans (guessed !value)) (by simp)
    | some other =>
      have pair : (formula.map fun leaf => (leaf,value)).map Prod.fst = formula := (map_map _ _ _).trans (map_id formula)
      have same := eval_complete (by rw [pair]; exact known)
      rw [map_map] at same
      exact congrArg some (same.symm.trans (guessed value))

mutual
def Formula.needs (kind : α → Bool) : Formula α → Bool
  | .leaf value => kind value
  | .join .all terms => (Formula.needsAll kind terms).any id
  | .join .any terms => terms ≠ [] && (Formula.needsAll kind terms).all id
def Formula.needsAll (kind : α → Bool) : List (Formula α) → List Bool
  | [] => []
  | term :: terms => term.needs kind :: Formula.needsAll kind terms
end

theorem Formula.needsAll_eq (kind : α → Bool) (terms : List (Formula α)) : needsAll kind terms = terms.map (needs kind) := by
  induction terms with
  | nil => rfl
  | cons term terms ih => exact congrArg (term.needs kind :: ·) ih

@[simp] theorem Formula.needs_leaf (kind : α → Bool) (value : α) : (leaf value).needs kind = kind value := rfl

theorem Formula.needs_all (kind : α → Bool) (terms : List (Formula α)) : (join .all terms).needs kind = (terms.map (needs kind)).any id :=
  congrArg (List.any · id) (needsAll_eq kind terms)

theorem Formula.needs_any (kind : α → Bool) (terms : List (Formula α)) :
    (join .any terms).needs kind = (decide (terms ≠ []) && (terms.map (needs kind)).all id) :=
  congrArg (fun each : List Bool => decide (terms ≠ []) && each.all id) (needsAll_eq kind terms)

theorem Formula.needs_map (f : α → β) (kind : β → Bool) (formula : Formula α) : (formula.map f).needs kind = formula.needs (kind ∘ f) := by
  induction formula using Formula.induct with
  | leaf value =>
    rw [map_leaf,needs_leaf,needs_leaf]
    rfl
  | join mode terms ih =>
    have same : (terms.map (map f)).map (needs kind) = terms.map (needs (kind ∘ f)) := by
      rw [List.map_map]
      exact List.map_congr_left ih
    cases mode with
    | all => rw [map_join,needs_all,needs_all,same]
    | any =>
      rw [map_join,needs_any,needs_any,same]
      simp

theorem Formula.exists_leaf {kind : α → Bool} {see : α → Option Bool} {formula : Formula α} (needs : formula.needs kind = true)
    (known : (formula.map see).strong = some true) : ∃ value ∈ formula.leaves, kind value = true ∧ see value = some true := by
  induction formula using Formula.induct with
  | leaf value =>
    rw [map_leaf,strong_leaf] at known
    rw [needs_leaf] at needs
    exact ⟨value,by rw [leaves_leaf]; exact List.mem_singleton_self value,needs,known⟩
  | join mode terms ih =>
    rw [map_join,strong_join,List.map_map] at known
    have found : ∃ term ∈ terms, term.needs kind = true ∧ (term.map see).strong = some true := by
      unfold Mode.strong at known
      cases mode with
      | all =>
        rw [needs_all,List.any_map,List.any_eq_true] at needs
        obtain ⟨term,member,need⟩ := needs
        refine ⟨term,member,need,?_⟩
        split at known
        · cases known
        rename_i unsettled
        split at known
        · cases known
        rename_i all
        cases value : (term.map see).strong with
        | none => exact absurd (List.mem_map.mpr ⟨term,member,value⟩) all
        | some value_ =>
          cases value_ with
          | false => exact absurd (List.mem_map.mpr ⟨term,member,value⟩) unsettled
          | true => rfl
      | any =>
        rw [needs_any,List.all_map,Bool.and_eq_true,List.all_eq_true] at needs
        split at known
        · rename_i settled
          obtain ⟨term,member,same⟩ := List.mem_map.mp settled
          exact ⟨term,member,needs.2 term member,same⟩
        · split at known
          · cases known
          · cases known
    obtain ⟨term,member,need,true_⟩ := found
    obtain ⟨value,inside,both⟩ := ih term member need true_
    exact ⟨value,mem_leaves_join.mpr ⟨term,member,inside⟩,both⟩

end Kleene
