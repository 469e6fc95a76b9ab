import Mathlib.Data.List.Nodup

/-! Relational tables as lists of rows in insertion order. An update statement
rewrites the matching rows in place, a delete statement drops them, and a lookup
returns the first match. -/
namespace Table

variable {Row : Type}

def update (selects : Row → Prop) [DecidablePred selects] (set : Row → Row) (rows : List Row) : List Row :=
  rows.map fun row => if selects row then set row else row

def delete (selects : Row → Prop) [DecidablePred selects] (rows : List Row) : List Row :=
  rows.filter fun row => ¬ selects row

/-- `SELECT * FROM table WHERE ..`. -/
def select (selects : Row → Prop) [DecidablePred selects] (rows : List Row) : List Row :=
  rows.filter fun row => selects row

def fetch (selects : Row → Prop) [DecidablePred selects] (rows : List Row) : Option Row :=
  rows.find? fun row => selects row

section
variable {selects : Row → Prop} [DecidablePred selects] {set : Row → Row} {rows : List Row} {row : Row}

@[simp] theorem mem_update : row ∈ update selects set rows ↔
    ∃ old ∈ rows, (if selects old then set old else old) = row := by
  simp [update]

@[simp] theorem mem_delete : row ∈ delete selects rows ↔ row ∈ rows ∧ ¬ selects row := by
  simp [delete]

@[simp] theorem mem_select : row ∈ select selects rows ↔ row ∈ rows ∧ selects row := by
  simp [select]

theorem select_eq_nil : select selects rows = [] ↔ ∀ row ∈ rows, ¬ selects row := by
  simp [select]

theorem fetch_mem (found : fetch selects rows = some row) : row ∈ rows :=
  List.mem_of_find?_eq_some found

theorem fetch_selects (found : fetch selects rows = some row) : selects row := by
  simpa using List.find?_some found

theorem fetch_none : fetch selects rows = none ↔ ∀ row ∈ rows, ¬ selects row := by
  simp [fetch]

variable (selects) in
theorem fetch_isSome (member : row ∈ rows) (chosen : selects row) :
    ∃ found, fetch selects rows = some found := by
  cases found : fetch selects rows with
  | none => exact absurd chosen (fetch_none.mp found row member)
  | some value => exact ⟨value,rfl⟩

@[simp] theorem length_update : (update selects set rows).length = rows.length := by
  simp [update]

theorem map_update {Value : Type} (field : Row → Value)
    (kept : ∀ row, selects row → field (set row) = field row) :
    (update selects set rows).map field = rows.map field := by
  simp only [update,List.map_map]
  apply List.map_congr_left
  intro row _
  by_cases chosen : selects row
  · simp [chosen,kept row chosen]
  · simp [chosen]

theorem update_eq_self (unselected : ∀ row ∈ rows, ¬ selects row) : update selects set rows = rows := by
  simp only [update]
  conv_rhs => rw [← List.map_id rows]
  apply List.map_congr_left
  intro row member
  simp [unselected row member]

theorem update_congr {other : Row → Prop} [DecidablePred other] (same : ∀ row ∈ rows, selects row ↔ other row) :
    update selects set rows = update other set rows := by
  apply List.map_congr_left
  intro row member
  simp only [same row member]

theorem select_congr {other : Row → Prop} [DecidablePred other] (same : ∀ row ∈ rows, selects row ↔ other row) :
    select selects rows = select other rows := by
  apply List.filter_congr
  intro row member
  simp only [same row member]

theorem select_map {set other : Row → Row} (same : ∀ row ∈ rows, selects (set row) ↔ selects row)
    (agree : ∀ row ∈ rows, selects row → set row = other row) : select selects (rows.map set) = (select selects rows).map other := by
  have chosen : (rows.filter fun row => selects (set row)) = rows.filter fun row => selects row :=
    List.filter_congr fun row member => decide_eq_decide.mpr (same row member)
  unfold select
  rw [List.filter_map]
  refine (congrArg (List.map set) chosen).trans (List.map_congr_left fun row listed => ?_)
  obtain ⟨member,selected⟩ := List.mem_filter.mp listed
  exact agree row member (of_decide_eq_true selected)

end

theorem fetch_update {Value : Type} [DecidableEq Value] {field : Row → Value} {selects : Row → Prop}
    [DecidablePred selects] {set : Row → Row} (kept : ∀ row, selects row → field (set row) = field row) (value : Value)
    (rows : List Row) : fetch (fun row => field row = value) (update selects set rows) =
      (fetch (fun row => field row = value) rows).map fun row => if selects row then set row else row := by
  have same : ∀ row, field (if selects row then set row else row) = field row := by
    intro row
    split
    · exact kept row (by assumption)
    · rfl
  simp [fetch,update,List.find?_map,Function.comp_def,same]

theorem fetch_delete_none {selects deletes : Row → Prop} [DecidablePred selects] [DecidablePred deletes] {rows : List Row}
    (absent : fetch selects rows = none) : fetch selects (delete deletes rows) = none := by
  rw [fetch_none] at absent ⊢
  intro row member
  exact absent row (mem_delete.mp member).1

theorem fetch_delete_some {selects deletes : Row → Prop} [DecidablePred selects] [DecidablePred deletes] {rows : List Row}
    {row : Row} (found : fetch selects rows = some row) (kept : ¬ deletes row) :
    fetch selects (delete deletes rows) = some row := by
  induction rows with
  | nil => cases found
  | cons first rows ih =>
    by_cases chosen : selects first
    · have same : first = row := by simpa [fetch,List.find?_cons,chosen] using found
      subst same
      simp [fetch,delete,chosen,kept]
    · have later := ih (by simpa [fetch,List.find?_cons,chosen] using found)
      by_cases dropped : deletes first
      · simpa [fetch,delete,dropped] using later
      · simpa [fetch,delete,dropped,List.find?_cons,chosen] using later

section
variable {Value : Type} {field : Row → Value} {rows : List Row} (distinct : (rows.map field).Nodup)
include distinct

theorem eq_of_key {first second : Row} (left : first ∈ rows) (right : second ∈ rows)
    (same : field first = field second) : first = second :=
  List.inj_on_of_nodup_map distinct left right same

theorem nodup_insert {row : Row}
    (fresh : ∀ old ∈ rows, field old ≠ field row) : ((rows++[row]).map field).Nodup := by
  rw [List.map_append,List.map_cons,List.map_nil,← List.concat_eq_append,List.nodup_concat]
  refine ⟨?_,distinct⟩
  intro member
  obtain ⟨old,held,same⟩ := List.mem_map.mp member
  exact fresh old held same

end

theorem eq_of_fetch {Value : Type} [DecidableEq Value] {field : Row → Value} {rows : List Row}
    (distinct : (rows.map field).Nodup) {value : Value} {first row : Row}
    (found : fetch (fun row => field row = value) rows = some first) (member : row ∈ rows)
    (same : field row = value) : row = first := by
  have key := fetch_selects found
  exact eq_of_key distinct member (fetch_mem found) (same.trans key.symm)

theorem select_key {Value : Type} [DecidableEq Value] {field : Row → Value} {rows : List Row}
    (distinct : (rows.map field).Nodup) {row : Row} (member : row ∈ rows) :
    select (fun other => field other = field row) rows = [row] := by
  induction rows with
  | nil => simp at member
  | cons first rows ih =>
    simp only [List.map_cons,List.nodup_cons] at distinct
    rcases List.mem_cons.mp member with rfl | later
    · have absent : select (fun other => field other = field row) rows = [] := by
        apply List.eq_nil_iff_forall_not_mem.mpr
        intro other present
        obtain ⟨inside,same⟩ := mem_select.mp present
        exact distinct.1 (List.mem_map.mpr ⟨other,inside,same⟩)
      simpa [select] using absent
    · have different : field first ≠ field row := by
        intro same
        exact distinct.1 (List.mem_map.mpr ⟨row,later,same.symm⟩)
      have rest := ih distinct.2 later
      simpa [select,different] using rest

def Joined {Left Right : Type} (on related : Left → Right → Prop) (lefts : List Left) (rights : List Right) : Prop :=
  ∀ left ∈ lefts, ∀ right ∈ rights, on left right → related left right

section
variable {Left Right : Type} {on related : Left → Right → Prop} {lefts : List Left} {rights : List Right}

section
variable (joined : Joined on related lefts rights)
include joined

theorem Joined.map {first : Left → Left} {second : Right → Right}
    (same : ∀ left right, on (first left) (second right) → on left right)
    (kept : ∀ left ∈ lefts, ∀ right ∈ rights, on left right → related left right →
      related (first left) (second right)) :
    Joined on related (lefts.map first) (rights.map second) := by
  intro left present right there together
  obtain ⟨old,member,rfl⟩ := List.mem_map.mp present
  obtain ⟨other,inside,rfl⟩ := List.mem_map.mp there
  have before := same old other together
  exact kept old member other inside before (joined old member other inside before)

theorem Joined.map_left {first : Left → Left}
    (same : ∀ left right, on (first left) right → on left right)
    (kept : ∀ left ∈ lefts, ∀ right ∈ rights, on left right → related left right → related (first left) right) :
    Joined on related (lefts.map first) rights := by
  intro left present right there together
  obtain ⟨old,member,rfl⟩ := List.mem_map.mp present
  have before := same old right together
  exact kept old member right there before (joined old member right there before)

theorem Joined.map_right {second : Right → Right}
    (same : ∀ left right, on left (second right) → on left right)
    (kept : ∀ left ∈ lefts, ∀ right ∈ rights, on left right → related left right → related left (second right)) :
    Joined on related lefts (rights.map second) := by
  intro left present right there together
  obtain ⟨old,member,rfl⟩ := List.mem_map.mp there
  have before := same left old together
  exact kept left present old member before (joined left present old member before)

theorem Joined.subset {fewer : List Left} {less : List Right}
    (left : ∀ row ∈ fewer, row ∈ lefts) (right : ∀ row ∈ less, row ∈ rights) : Joined on related fewer less :=
  fun first present second there together => joined first (left first present) second (right second there) together

theorem Joined.append {more : List Left} {extra : List Right}
    (newLeft : Joined on related more rights) (newRight : Joined on related lefts extra)
    (new : Joined on related more extra) : Joined on related (lefts++more) (rights++extra) := by
  intro left present right there together
  rcases List.mem_append.mp present with old | fresh <;> rcases List.mem_append.mp there with inside | added
  · exact joined left old right inside together
  · exact newRight left old right added together
  · exact newLeft left fresh right inside together
  · exact new left fresh right added together

end

end
end Table
