import Mathlib.Data.List.Nodup

/-! Dictionaries in insertion order, and the edits a program makes in one: a key that is set to a value or
popped. -/

@[ext]
structure Dict (κ α : Type) where
  entries : List (κ × α)
  distinct : (entries.map Prod.fst).Nodup

namespace Dict
variable {κ α : Type} [DecidableEq κ]

def empty : Dict κ α := ⟨[],List.nodup_nil⟩

def values (dict : Dict κ α) : List α := dict.entries.map Prod.snd

def get (dict : Dict κ α) (key : κ) : Option α := dict.entries.lookup key

theorem get_eq_some_iff {dict : Dict κ α} {key : κ} {value : α} : dict.get key = some value ↔ (key,value) ∈ dict.entries := by
  obtain ⟨entries,distinct⟩ := dict
  unfold get
  dsimp only
  induction entries with
  | nil => simp
  | cons entry entries ih =>
    obtain ⟨first,held⟩ := entry
    rw [List.map_cons,List.nodup_cons] at distinct
    by_cases same : key = first
    · subst same
      have absent : (key,value) ∉ entries := fun member => distinct.1 (List.mem_map.mpr ⟨_,member,rfl⟩)
      simp [absent,eq_comm]
    · have other : (key == first) = false := by simpa using same
      rw [List.lookup_cons,other,List.mem_cons]
      simp [ih distinct.2,same]

theorem mem_values {dict : Dict κ α} {value : α} : value ∈ dict.values ↔ ∃ key, dict.get key = some value := by
  simp [values,get_eq_some_iff]

def putEntry (key : κ) (value : α) : List (κ × α) → List (κ × α)
  | [] => [(key,value)]
  | entry :: entries => if entry.1 = key then (key,value) :: entries else entry :: putEntry key value entries

theorem putEntry_keys (key : κ) (value : α) (entries : List (κ × α)) :
    (putEntry key value entries).map Prod.fst =
      if key ∈ entries.map Prod.fst then entries.map Prod.fst else entries.map Prod.fst++[key] := by
  induction entries with
  | nil => rfl
  | cons entry entries ih =>
    unfold putEntry
    by_cases same : entry.1 = key
    · simp [same]
    · rw [if_neg same,List.map_cons,List.map_cons,ih]
      by_cases later : key ∈ entries.map Prod.fst
      · rw [if_pos later,if_pos (List.mem_cons_of_mem _ later)]
      · have absent : key ∉ entry.1 :: entries.map Prod.fst := by
          rw [List.mem_cons,not_or]
          exact ⟨Ne.symm same,later⟩
        rw [if_neg later,if_neg absent,List.cons_append]

theorem putEntry_absent {key : κ} (value : α) {entries : List (κ × α)} (absent : key ∉ entries.map Prod.fst) :
    putEntry key value entries = entries ++ [(key,value)] := by
  induction entries with
  | nil => rfl
  | cons entry entries ih =>
    rw [List.map_cons,List.mem_cons,not_or] at absent
    unfold putEntry
    rw [if_neg (Ne.symm absent.1),ih absent.2,List.cons_append]

def put (dict : Dict κ α) (key : κ) (value : α) : Dict κ α where
  entries := putEntry key value dict.entries
  distinct := by
    rw [putEntry_keys]
    split
    · exact dict.distinct
    · rename_i absent
      refine List.nodup_append.mpr ⟨dict.distinct,List.nodup_singleton key,?_⟩
      intro old member last single equal
      exact absent (List.mem_singleton.mp single ▸ equal ▸ member)

theorem put_entries {dict : Dict κ α} {key : κ} (value : α) (absent : key ∉ dict.entries.map Prod.fst) :
    (dict.put key value).entries = dict.entries ++ [(key,value)] := putEntry_absent value absent

def pop (dict : Dict κ α) (key : κ) : Dict κ α where
  entries := dict.entries.filter fun entry => entry.1 ≠ key
  distinct := dict.distinct.sublist (List.filter_sublist.map Prod.fst)

theorem lookup_putEntry (key : κ) (value : α) (entries : List (κ × α)) (other : κ) :
    (putEntry key value entries).lookup other = if other = key then some value else entries.lookup other := by
  have cons (first : κ) (held : α) (entries : List (κ × α)) :
      List.lookup other ((first,held) :: entries) = if other = first then some held else List.lookup other entries := by
    by_cases here : other = first
    · simp [here]
    · have apart : (other == first) = false := by simpa using here
      rw [List.lookup_cons,apart,if_neg here]
  induction entries with
  | nil => exact cons key value []
  | cons entry entries ih =>
    obtain ⟨first,held⟩ := entry
    unfold putEntry
    by_cases same : first = key
    · subst same
      rw [if_pos rfl,cons,cons]
      split <;> rfl
    · rw [if_neg same,cons,cons,ih]
      by_cases here : other = first
      · have apart : other ≠ key := fun equal => same (here.symm.trans equal)
        rw [if_pos here,if_neg apart,if_pos here]
      · rw [if_neg here,if_neg here]

theorem get_put (dict : Dict κ α) (key : κ) (value : α) (other : κ) :
    (dict.put key value).get other = if other = key then some value else dict.get other := lookup_putEntry key value dict.entries other

theorem get_pop (dict : Dict κ α) (key other : κ) :
    (dict.pop key).get other = if other = key then none else dict.get other := by
  by_cases same : other = key
  · rw [if_pos same,← Option.not_isSome_iff_eq_none,Option.isSome_iff_exists]
    rintro ⟨value,found⟩
    have kept := List.of_mem_filter (get_eq_some_iff.mp found)
    simp [same] at kept
  · rw [if_neg same]
    ext value
    rw [get_eq_some_iff,get_eq_some_iff]
    simp [pop,same]

abbrev Edit (κ α : Type) := κ × Option α

def edit (dict : Dict κ α) : Edit κ α → Dict κ α
  | (key,some value) => dict.put key value
  | (key,none) => dict.pop key

def editAll (dict : Dict κ α) (edits : List (Edit κ α)) : Dict κ α := edits.foldl edit dict

def written : List (Edit κ α) → κ → Option (Option α)
  | [], _ => none
  | change :: edits, key => match written edits key with
    | some later => some later
    | none => if change.1 = key then some change.2 else none

theorem get_edit (dict : Dict κ α) (change : Edit κ α) (key : κ) :
    (dict.edit change).get key = if change.1 = key then change.2 else dict.get key := by
  obtain ⟨edited,value⟩ := change
  cases value with
  | none =>
    rw [edit,get_pop]
    simp [eq_comm]
  | some value =>
    rw [edit,get_put]
    simp [eq_comm]

theorem get_editAll (dict : Dict κ α) (edits : List (Edit κ α)) (key : κ) :
    (dict.editAll edits).get key = (written edits key).getD (dict.get key) := by
  induction edits generalizing dict with
  | nil => rfl
  | cons change edits ih =>
    have rest : (dict.editAll (change :: edits)).get key = _ := ih (dict.edit change)
    rw [rest,get_edit,written]
    cases written edits key with
    | some later => rfl
    | none => by_cases same : change.1 = key <;> simp [same]

theorem mem_of_written {edits : List (Edit κ α)} {key : κ} {value : Option α} (found : written edits key = some value) :
    (key,value) ∈ edits := by
  induction edits with
  | nil => cases found
  | cons change edits ih =>
    obtain ⟨edited,set⟩ := change
    unfold written at found
    cases later : written edits key with
    | some left =>
      rw [later] at found
      exact List.mem_cons_of_mem _ (ih (later.trans found))
    | none =>
      rw [later] at found
      by_cases same : edited = key
      · simp only [same,if_true,Option.some.injEq] at found
        rw [same,found]
        exact List.mem_cons_self ..
      · simp [same] at found

theorem written_eq_none {edits : List (Edit κ α)} {key : κ} : written edits key = none ↔ key ∉ edits.map Prod.fst := by
  induction edits with
  | nil => simp [written]
  | cons change edits ih =>
    obtain ⟨edited,set⟩ := change
    unfold written
    cases later : written edits key with
    | some left =>
      have member : key ∈ edits.map Prod.fst := List.mem_map.mpr ⟨_,mem_of_written later,rfl⟩
      simp [member]
    | none =>
      have absent := ih.mp later
      by_cases same : edited = key
      · simp [same]
      · simp only [if_neg same,List.map_cons,List.mem_cons,not_or,true_iff]
        exact ⟨Ne.symm same,absent⟩

theorem get_editAll_cases (dict : Dict κ α) (edits : List (Edit κ α)) (key : κ) :
    (key ∉ edits.map Prod.fst ∧ (dict.editAll edits).get key = dict.get key) ∨
      ∃ value, (key,value) ∈ edits ∧ (dict.editAll edits).get key = value := by
  rw [get_editAll]
  cases found : written edits key with
  | none => exact .inl ⟨written_eq_none.mp found,rfl⟩
  | some value => exact .inr ⟨value,mem_of_written found,rfl⟩

def editEach (dict : Dict κ α) (keys : List κ) (change : α → Option (Option α)) : List (Edit κ α) :=
  keys.filterMap fun key => ((dict.get key).bind change).map fun value => (key,value)

def editItems (dict : Dict κ α) (change : α → Option (Option α)) : List (Edit κ α) :=
  dict.entries.filterMap fun (key,current) => (change current).map fun value => (key,value)

@[simp] theorem mem_editEach {dict : Dict κ α} {keys : List κ} {change : α → Option (Option α)} {key : κ} {value : Option α} :
    (key,value) ∈ dict.editEach keys change ↔ key ∈ keys ∧ ∃ current, dict.get key = some current ∧ change current = some value := by
  unfold editEach
  simp only [List.mem_filterMap,Option.map_eq_some_iff,Option.bind_eq_some_iff,Prod.mk.injEq]
  constructor
  · rintro ⟨_,member,_,⟨current,found,set⟩,rfl,rfl⟩
    exact ⟨member,current,found,set⟩
  · rintro ⟨member,current,found,set⟩
    exact ⟨key,member,value,⟨current,found,set⟩,rfl,rfl⟩

@[simp] theorem mem_editItems {dict : Dict κ α} {change : α → Option (Option α)} {key : κ} {value : Option α} :
    (key,value) ∈ dict.editItems change ↔ ∃ current, dict.get key = some current ∧ change current = some value := by
  unfold editItems
  simp only [List.mem_filterMap,Option.map_eq_some_iff,Prod.mk.injEq,get_eq_some_iff]
  constructor
  · rintro ⟨⟨_,current⟩,member,_,set,rfl,rfl⟩
    exact ⟨current,member,set⟩
  · rintro ⟨current,member,set⟩
    exact ⟨(key,current),member,value,set,rfl,rfl⟩

end Dict
