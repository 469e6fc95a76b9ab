import Mathlib.Logic.Relation

/-! Guarded runs of a system whose operations are total functions on its state: lists of operations, with a guard for
the states in which one may be taken. Every invariant is proved from what one guarded operation keeps. -/
namespace Runs

variable {State Op : Type} (apply : Op → State → State)

def exec (state : State) (ops : List Op) : State := ops.foldl (fun state op => apply op state) state

@[simp] theorem exec_nil (state : State) : exec apply state [] = state := rfl

@[simp] theorem exec_cons (state : State) (op : Op) (ops : List Op) :
    exec apply state (op::ops) = exec apply (apply op state) ops := rfl

theorem exec_append (state : State) (first second : List Op) :
    exec apply state (first++second) = exec apply (exec apply state first) second := by
  simp [exec,List.foldl_append]

/-- States reached from `initial` by operations that each meet the guard where they are taken. -/
inductive Reached (guard : State → Op → Prop) (initial : State) : State → Prop
  | start : Reached guard initial initial
  | step {state : State} (earlier : Reached guard initial state) (op : Op) (allowed : guard state op) :
      Reached guard initial (apply op state)

variable {apply} {guard : State → Op → Prop} {initial : State}

theorem Reached.invariant (Inv : State → Prop) (holds : Inv initial)
    (kept : ∀ state op, Inv state → guard state op → Inv (apply op state))
    {state : State} (reached : Reached apply guard initial state) : Inv state := by
  induction reached with
  | start => exact holds
  | step _ op allowed ih => exact kept _ op ih allowed

theorem Reached.weaken {other : State → Op → Prop} (implies : ∀ state op, guard state op → other state op)
    {state : State} (reached : Reached apply guard initial state) : Reached apply other initial state := by
  induction reached with
  | start => exact .start
  | step _ op allowed ih => exact .step ih op (implies _ _ allowed)

theorem exec_invariant {Inv : State → Prop} (kept : ∀ state op, Inv state → Inv (apply op state))
    {state : State} (holds : Inv state) (ops : List Op) : Inv (exec apply state ops) := by
  induction ops generalizing state with
  | nil => exact holds
  | cons op ops ih => exact ih (kept state op holds)

/-- Every item of a loop meets `ok` at its turn. -/
def Along {Item : Type} (turn : State → Item → State) (ok : State → Item → Prop) : State → List Item → Prop
  | _, [] => True
  | state, item :: items => ok state item ∧ Along turn ok (turn state item) items

instance {Item : Type} (turn : State → Item → State) (ok : State → Item → Prop) [∀ state item, Decidable (ok state item)] :
    ∀ state items, Decidable (Along turn ok state items)
  | _, [] => inferInstanceAs (Decidable True)
  | state, item :: items =>
    have := instDecidableAlong turn ok (turn state item) items
    inferInstanceAs (Decidable (ok state item ∧ Along turn ok (turn state item) items))

section
variable {Item : Type} {turn : State → Item → State} {ok : State → Item → Prop}

theorem Along.all (always : ∀ state item, ok state item)
    (state : State) (items : List Item) : Along turn ok state items := by
  induction items generalizing state with
  | nil => trivial
  | cons item items ih => exact ⟨always state item,ih _⟩

theorem along_append (state : State) (first second : List Item) :
    Along turn ok state (first++second) ↔ Along turn ok state first ∧ Along turn ok (first.foldl turn state) second := by
  induction first generalizing state with
  | nil => simp [Along]
  | cons item items ih =>
    show ok state item ∧ Along turn ok (turn state item) (items++second) ↔ _
    rw [ih,← and_assoc]
    rfl

end

theorem Reached.along {state : State} (reached : Reached apply guard initial state) (ops : List Op)
    (meets : Along (fun state op => apply op state) guard state ops) :
    Reached apply guard initial (exec apply state ops) := by
  induction ops generalizing state with
  | nil => exact reached
  | cons op ops ih => exact ih (reached.step op meets.1) meets.2

theorem foldl_invariant {Item : Type} {turn : State → Item → State} {ok : State → Item → Prop} (Inv : State → Prop)
    (kept : ∀ state item, Inv state → ok state item → Inv (turn state item)) {state : State} (items : List Item)
    (holds : Inv state) (meets : Along turn ok state items) : Inv (items.foldl turn state) := by
  induction items generalizing state with
  | nil => exact holds
  | cons item items ih => exact ih (kept state item holds meets.1) meets.2

theorem foldl_prefix {Item : Type} {turn : State → Item → State} (Inv : List Item → State → Prop) {items : List Item}
    (turns : ∀ earlier item later state, items = earlier++item::later → Inv earlier state →
      Inv (earlier++[item]) (turn state item)) {state : State} (holds : Inv [] state) :
    Inv items (items.foldl turn state) := by
  have rest : ∀ later earlier state, items = earlier++later → Inv earlier state → Inv items (later.foldl turn state) := by
    intro later
    induction later with
    | nil =>
      intro earlier state split before
      rw [split,List.append_nil]
      exact before
    | cons item later ih =>
      intro earlier state split before
      exact ih (earlier++[item]) (turn state item) (by rw [split,List.append_assoc]; rfl)
        (turns earlier item later state split before)
  exact rest items [] state rfl holds

theorem foldlM_invariant {Error Item : Type} {turn : State → Item → Except Error State} (Inv : State → Prop)
    (kept : ∀ state item next, Inv state → turn state item = .ok next → Inv next) {state final : State}
    (items : List Item) (holds : Inv state) (done : items.foldlM turn state = .ok final) : Inv final := by
  induction items generalizing state with
  | nil =>
    cases done
    exact holds
  | cons item items ih =>
    rw [List.foldlM_cons] at done
    cases first : turn state item with
    | error error =>
      rw [first] at done
      cases done
    | ok next =>
      rw [first] at done
      exact ih (kept state item next holds first) done

section
variable {Error Item Result : Type} (turn : State → Item → Except Error Result × State)

def loop : State → List Item → Except Error (List Result) × State
  | state, [] => (.ok [],state)
  | state, item :: items => match turn state item with
    | (.error error,stopped) => (.error error,stopped)
    | (.ok result,next) =>
      let rest := loop next items
      (rest.1.map fun results => result :: results,rest.2)

def Meets (ok : State → Item → Prop) : State → List Item → Prop
  | _, [] => True
  | state, item :: items => ok state item ∧ ∀ result, (turn state item).1 = .ok result → Meets ok (turn state item).2 items

variable {turn}

theorem Meets.all {ok : State → Item → Prop} (always : ∀ state item, ok state item) (state : State) (items : List Item) :
    Meets turn ok state items := by
  induction items generalizing state with
  | nil => trivial
  | cons item items ih => exact ⟨always state item,fun _ _ => ih _⟩

theorem loop_invariant {ok : State → Item → Prop} (Inv : State → Prop)
    (kept : ∀ state item, Inv state → ok state item → Inv (turn state item).2) {state : State} (items : List Item)
    (holds : Inv state) (meets : Meets turn ok state items) : Inv (loop turn state items).2 := by
  induction items generalizing state with
  | nil => exact holds
  | cons item items ih =>
    have next := kept state item holds meets.1
    have further := meets.2
    unfold loop
    generalize turn state item = outcome at next further ⊢
    obtain ⟨result,after⟩ := outcome
    cases result with
    | error error => exact next
    | ok result => exact ih next (further result rfl)

theorem loop_prefix (Inv : List Item → State → Prop) {items : List Item}
    (turns : ∀ earlier item later state result, items = earlier++item::later → Inv earlier state →
      (turn state item).1 = .ok result → Inv (earlier++[item]) (turn state item).2)
    {state : State} (holds : Inv [] state) {results : List Result} (done : (loop turn state items).1 = .ok results) :
    Inv items (loop turn state items).2 := by
  have rest : ∀ later earlier state results, items = earlier++later → Inv earlier state →
      (loop turn state later).1 = .ok results → Inv items (loop turn state later).2 := by
    intro later
    induction later with
    | nil =>
      intro earlier state results split before _
      rw [split,List.append_nil]
      exact before
    | cons item later ih =>
      intro earlier state results split before done
      have step := turns earlier item later state
      unfold loop at done ⊢
      generalize turn state item = outcome at step done ⊢
      obtain ⟨answer,after⟩ := outcome
      cases answer with
      | error error => cases done
      | ok result =>
        dsimp only at done ⊢
        cases tail : (loop turn after later).1 with
        | error error =>
          rw [tail] at done
          cases done
        | ok values =>
          exact ih (earlier++[item]) after values (by rw [split,List.append_assoc]; rfl)
            (step result split before rfl) tail
  exact rest items [] state results rfl holds done

def turned (turn : State → Item → Except Error Result × State) : State → List Item → List Item
  | _, [] => []
  | state, item :: items => item :: match (turn state item).1 with
    | .error _ => []
    | .ok _ => turned turn (turn state item).2 items

def Passes (turn : State → Item → Except Error Result × State) (state : State) (item : Item) : Prop :=
  ∃ result, (turn state item).1 = .ok result

theorem turned_sublist (state : State) (items : List Item) : (turned turn state items).Sublist items := by
  induction items generalizing state with
  | nil => exact .slnil
  | cons item items ih =>
    unfold turned
    refine .cons_cons item ?_
    split
    next => exact List.nil_sublist _
    next => exact ih _

theorem mem_turned {earlier later : List Item} {item : Item} (distinct : (earlier++item::later).Nodup) (state : State) :
    item ∈ turned turn state (earlier++item::later) ↔ Along (fun state item => (turn state item).2) (Passes turn) state earlier := by
  induction earlier generalizing state with
  | nil => simp [turned,Along]
  | cons first earlier ih =>
    obtain ⟨fresh,distinct⟩ := List.nodup_cons.mp distinct
    have other : item ≠ first := fun same => fresh (same ▸ List.mem_append_right _ (List.mem_cons_self ..))
    have rest := ih distinct (turn state first).2
    unfold Along
    rw [List.cons_append,turned,List.mem_cons,← rest]
    unfold Passes
    cases (turn state first).1 with
    | error error => simp [other]
    | ok result => simp [other]

theorem loop_record {Entry : Type} {record : State → List Entry} {entries : Item → List Entry}
    (adds : ∀ state item, record (turn state item).2 = record state ++ entries item) (state : State) (items : List Item) :
    record (loop turn state items).2 = record state ++ (turned turn state items).flatMap entries := by
  induction items generalizing state with
  | nil => simp [loop,turned]
  | cons item items ih =>
    have next := adds state item
    have further := ih (turn state item).2
    unfold loop turned
    generalize turn state item = outcome at next further ⊢
    obtain ⟨result,after⟩ := outcome
    cases result with
    | error error => simpa using next
    | ok result => simpa [next] using further

theorem loop_idle {items : List Item} {state : State}
    (idle : ∀ item ∈ items, ∃ result, turn state item = (.ok result,state)) :
    ∃ results, loop turn state items = (.ok results,state) := by
  induction items with
  | nil => exact ⟨[],rfl⟩
  | cons item items ih =>
    obtain ⟨result,same⟩ := idle item (List.mem_cons_self ..)
    obtain ⟨results,rest⟩ := ih fun other member => idle other (List.mem_cons_of_mem _ member)
    refine ⟨result::results,?_⟩
    unfold loop
    rw [same]
    dsimp only
    rw [rest]
    rfl

end

end Runs
