import Mathlib.Data.List.Nodup
import GmsRemoteTest.Lib.Json

/-! JSON objects as dictionaries: what lies within a value, keys that are distinct at every depth, and equality up to
the order of fields. -/
namespace Json

abbrev Fields := List (String × Value)

def keys (fields : Fields) : List String := fields.map Prod.fst

inductive Within (part : Value) : Value → Prop
  | self : Within part part
  | item {items : List Value} {item : Value} (member : item ∈ items) (inner : Within part item) : Within part (.array items)
  | field {fields : Fields} {field : String × Value} (member : field ∈ fields) (inner : Within part field.2) :
      Within part (.object fields)

def Value.Distinct (value : Value) : Prop := ∀ fields, Within (.object fields) value → (keys fields).Nodup

/-- Some object in the value has the key. -/
def Value.HasKey (value : Value) (key : String) : Prop := ∃ fields, Within (.object fields) value ∧ key ∈ keys fields

/-- The same value up to the order of the fields of its objects. -/
inductive Same : Value → Value → Prop
  | refl (value : Value) : Same value value
  | object {fields others : Fields} (left : (keys fields).Nodup) (right : (keys others).Nodup)
      (same : ∀ key, Option.Rel Same (fields.lookup key) (others.lookup key)) : Same (.object fields) (.object others)

theorem Value.Distinct.field {fields : Fields} (distinct : (Value.object fields).Distinct) {field : String × Value}
    (member : field ∈ fields) : field.2.Distinct :=
  fun inner within => distinct inner (.field member within)

theorem Value.Distinct.nodup {fields : Fields} (distinct : (Value.object fields).Distinct) : (keys fields).Nodup :=
  distinct fields .self

theorem lookup_field (key : String) (field : String × Value) (fields : Fields) :
    (field :: fields).lookup key = if key = field.1 then some field.2 else fields.lookup key := by
  obtain ⟨name,value⟩ := field
  by_cases same : key = name
  · simp [same]
  · rw [List.lookup_cons,beq_false_of_ne same,if_neg same]

theorem lookup_put (key other : String) (value : Value) (fields : Fields) :
    (put key value fields).lookup other = if other = key then some value else fields.lookup other := by
  induction fields with
  | nil => simp [put,lookup_field]
  | cons field fields ih =>
    unfold put
    split
    · rename_i same
      rw [lookup_field,lookup_field,same]
      split <;> rfl
    · rename_i differs
      rw [lookup_field,lookup_field,ih]
      by_cases first : other = field.1
      · rw [if_pos first,if_pos first,if_neg (fun same => differs (first.symm.trans same))]
      · rw [if_neg first,if_neg first]

theorem lookup_eq_none {key : String} {fields : Fields} : fields.lookup key = none ↔ key ∉ keys fields := by
  induction fields with
  | nil => simp [keys]
  | cons field fields ih =>
    rw [lookup_field]
    by_cases same : key = field.1
    · simp [keys,same]
    · rw [if_neg same,ih]
      simp [keys,same]

theorem mem_of_lookup {key : String} {value : Value} {fields : Fields} (found : fields.lookup key = some value) :
    (key,value) ∈ fields := by
  obtain ⟨before,after,rfl,-⟩ := List.lookup_eq_some_iff.mp found
  simp

theorem nodup_put {key : String} {fields : Fields} (distinct : (keys fields).Nodup) (value : Value) :
    (keys (put key value fields)).Nodup := by
  induction fields with
  | nil => exact List.nodup_singleton _
  | cons field fields ih =>
    obtain ⟨fresh,rest⟩ := List.nodup_cons.mp distinct
    unfold put
    split
    · rename_i same
      exact List.nodup_cons.mpr ⟨same ▸ fresh,rest⟩
    · rename_i differs
      refine List.nodup_cons.mpr ⟨?_,ih rest⟩
      have absent : (put key value fields).lookup field.1 = none := by
        rw [lookup_put,if_neg differs]
        exact lookup_eq_none.mpr fresh
      exact lookup_eq_none.mp absent

theorem distinct_object {fields : Fields} : (Value.object fields).Distinct ↔ (keys fields).Nodup ∧ ∀ field ∈ fields, field.2.Distinct := by
  constructor
  · exact fun distinct => ⟨distinct.nodup,fun _ member => distinct.field member⟩
  · rintro ⟨single,inner⟩ fields' within
    cases within with
    | self => exact single
    | field member within => exact inner _ member fields' within

theorem mem_put {key : String} {value : Value} {fields : Fields} {field : String × Value} (member : field ∈ put key value fields) :
    field = (key,value) ∨ field ∈ fields := by
  induction fields with
  | nil => exact .inl (List.mem_singleton.mp member)
  | cons first fields ih =>
    unfold put at member
    split at member
    · exact (List.mem_cons.mp member).imp_right (List.mem_cons_of_mem _)
    · obtain rfl | member := List.mem_cons.mp member
      · exact .inr List.mem_cons_self
      · exact (ih member).imp_right (List.mem_cons_of_mem _)

theorem distinct_put {key : String} {value : Value} {fields : Fields} (distinct : (Value.object fields).Distinct) (inner : value.Distinct) :
    (Value.object (put key value fields)).Distinct := by
  refine distinct_object.mpr ⟨nodup_put distinct.nodup value,fun field member => ?_⟩
  obtain rfl | member := mem_put member
  · exact inner
  · exact distinct.field member

theorem distinct_sublist {fields others : Fields} (sublist : others.Sublist fields) (distinct : (Value.object fields).Distinct) :
    (Value.object others).Distinct :=
  distinct_object.mpr ⟨(sublist.map Prod.fst).nodup distinct.nodup,fun _ member => distinct.field (sublist.subset member)⟩

theorem rel_some {r : Value → Value → Prop} {value : Value} {other : Option Value} :
    Option.Rel r (some value) other ↔ ∃ held, other = some held ∧ r value held := by
  constructor
  · rintro ⟨⟩
    rename_i held inner
    exact ⟨held,rfl,inner⟩
  · rintro ⟨held,rfl,inner⟩
    exact .some inner

theorem rel_none {r : Value → Value → Prop} {other : Option Value} : Option.Rel r none other ↔ other = none := by
  constructor
  · rintro ⟨⟩
    rfl
  · rintro rfl
    exact .none

theorem Same.symm {first second : Value} (same : Same first second) : Same second first := by
  cases same with
  | refl => exact .refl _
  | @object fields others left right inner =>
    refine .object right left fun key => ?_
    have other := inner key
    cases found : fields.lookup key with
    | none =>
      rw [found,rel_none] at other
      rw [other]
      exact .none
    | some value =>
      rw [found] at other
      obtain ⟨held,found',rest⟩ := rel_some.mp other
      have member := mem_of_lookup found
      rw [found']
      exact .some rest.symm
termination_by sizeOf first
decreasing_by
  have smaller := List.sizeOf_lt_of_mem member
  simp only [Prod.mk.sizeOf_spec,Value.object.sizeOf_spec] at smaller ⊢
  omega

theorem Same.trans {first second third : Value} (same : Same first second) (next : Same second third) : Same first third := by
  cases same with
  | refl => exact next
  | @object fields others left _ inner =>
    cases next with
    | refl => exact .object left ‹_› inner
    | @object _ last _ right inner' =>
      refine .object left right fun key => ?_
      have before := inner key
      cases found : fields.lookup key with
      | none =>
        rw [found,rel_none] at before
        have after := inner' key
        rw [before,rel_none] at after
        rw [after]
        exact .none
      | some value =>
        rw [found] at before
        obtain ⟨held,found',rest⟩ := rel_some.mp before
        have after := inner' key
        rw [found'] at after
        obtain ⟨final,found'',rest'⟩ := rel_some.mp after
        have member := mem_of_lookup found
        rw [found'']
        exact .some (rest.trans rest')
termination_by sizeOf first
decreasing_by
  subst_vars
  have smaller := List.sizeOf_lt_of_mem member
  simp only [Prod.mk.sizeOf_spec,Value.object.sizeOf_spec] at smaller ⊢
  omega

abbrev SameAt : Option Value → Option Value → Prop := Option.Rel Same

theorem SameAt.refl (value : Option Value) : SameAt value value := by
  cases value with
  | none => exact .none
  | some value => exact .some (.refl value)

theorem SameAt.symm {first second : Option Value} (same : SameAt first second) : SameAt second first := by
  cases same with
  | none => exact .none
  | some inner => exact .some inner.symm

theorem SameAt.trans {first second third : Option Value} (same : SameAt first second) (next : SameAt second third) : SameAt first third := by
  cases same with
  | none => exact next
  | some inner =>
    obtain ⟨_,rfl,rest⟩ := rel_some.mp next
    exact .some (inner.trans rest)

theorem Same.lookup {fields others : Fields} (same : Same (.object fields) (.object others)) (key : String) :
    SameAt (fields.lookup key) (others.lookup key) := by
  cases same with
  | refl => exact .refl _
  | object _ _ inner => exact inner key

end Json
