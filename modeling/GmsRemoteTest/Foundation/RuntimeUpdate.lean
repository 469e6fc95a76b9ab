import GmsRemoteTest.Foundation.RuntimeStore

/-! `update_runtime_config` reads the stored configuration, changes some keys and writes all of it. The read passes over what it cannot read,
the write of the store does not: what an update keeps depends on which of the reads fail. -/
namespace GmsRemoteTest.RuntimeConfig
open Json UndoJournal

variable {lower : String → String}

theorem mem_optional {key : String} {item : Option Value} {field : String × Value} (member : field ∈ (item.map (Prod.mk key)).toList) :
    ∃ value, item = some value ∧ field = (key,value) := by
  cases item with
  | none => cases member
  | some value => exact ⟨value,rfl,List.mem_singleton.mp member⟩

theorem distinct_side {key : String} {item : Option Value} {fields : Fields} (single : (keys ((item.map (Prod.mk key)).toList ++ fields)).Nodup)
    (first : ∀ value, item = some value → value.Distinct) (rest : (Value.object fields).Distinct) :
    (Value.object ((item.map (Prod.mk key)).toList ++ fields)).Distinct := by
  refine distinct_object.mpr ⟨single,fun field member => ?_⟩
  obtain member | member := List.mem_append.mp member
  · obtain ⟨value,same,rfl⟩ := mem_optional member
    exact first value same
  · exact rest.field member

mutual

theorem extractSecrets_distinct : ∀ fields : Fields, (Value.object fields).Distinct →
    (Value.object (extractSecrets lower fields).1).Distinct ∧ (Value.object (extractSecrets lower fields).2).Distinct
  | [], distinct => ⟨distinct,distinct⟩
  | (key,item) :: fields, distinct => by
    have single := @keys_extractSecrets lower ((key,item) :: fields)
    have inner : item.Distinct := distinct.field List.mem_cons_self
    have rest := extractSecrets_distinct fields (distinct_sublist (List.sublist_cons_self _ _) distinct)
    have first := extractItem_distinct item inner
    rw [extractSecrets_cons] at single ⊢
    have side : (∀ value, (placed lower key item).1 = some value → value.Distinct) ∧
        ∀ value, (placed lower key item).2 = some value → value.Distinct := by
      unfold placed
      split
      · exact ⟨nofun,fun _ same => Option.some.inj same ▸ inner⟩
      · exact first
    exact ⟨distinct_side (single.1.nodup distinct.nodup) side.1 rest.1,distinct_side (single.2.nodup distinct.nodup) side.2 rest.2⟩

theorem extractItem_distinct : ∀ item : Value, item.Distinct →
    (∀ value, (extractItem lower item).1 = some value → value.Distinct) ∧ ∀ value, (extractItem lower item).2 = some value → value.Distinct
  | .object fields, distinct => by
    have rest := extractSecrets_distinct fields distinct
    rw [extractItem]
    refine ⟨fun _ same => Option.some.inj same ▸ rest.1,fun _ same => ?_⟩
    dsimp only at same
    split at same
    · cases same
    · exact Option.some.inj same ▸ rest.2
  | .array items, distinct => by
    rw [extractItem]
    split
    · exact ⟨nofun,fun _ same => Option.some.inj same ▸ distinct⟩
    · exact ⟨fun _ same => Option.some.inj same ▸ distinct,nofun⟩
  | .null, distinct => ⟨fun _ same => Option.some.inj same ▸ distinct,nofun⟩
  | .bool _, distinct => ⟨fun _ same => Option.some.inj same ▸ distinct,nofun⟩
  | .number _, distinct => ⟨fun _ same => Option.some.inj same ▸ distinct,nofun⟩
  | .string _, distinct => ⟨fun _ same => Option.some.inj same ▸ distinct,nofun⟩

end

mutual

theorem overlaySections_distinct : ∀ {base : Fields} (extra : Fields), (Value.object base).Distinct → (Value.object extra).Distinct →
    (Value.object (overlaySections base extra)).Distinct
  | _, [], distinct, _ => distinct
  | base, (key,value) :: extra, distinct, over_ => by
    rw [overlaySections]
    refine overlaySections_distinct extra (distinct_put distinct ?_) (distinct_sublist (List.sublist_cons_self _ _) over_)
    exact overlayValue_distinct value (fun held found => distinct.field (mem_of_lookup found)) (over_.field List.mem_cons_self)

theorem overlayValue_distinct : ∀ {base : Option Value} (value : Value), (∀ held, base = some held → held.Distinct) → value.Distinct →
    (overlayValue base value).Distinct
  | base, .object extra, distinct, over_ => by
    unfold overlayValue
    split
    · exact overlaySections_distinct extra (distinct _ rfl) over_
    · exact over_
  | _, .array _, _, over_ => over_
  | _, .null, _, over_ => over_
  | _, .bool _, _, over_ => over_
  | _, .number _, _, over_ => over_
  | _, .string _, _, over_ => over_

end

theorem partition_distinct (payload : Payload) (part : Partition) : (Value.object (partitionRuntime lower payload.fields part)).Distinct := by
  have sides := @extractSecrets_distinct lower payload.fields payload.distinct
  unfold partitionRuntime
  dsimp only
  split
  · exact sides.2
  · exact distinct_sublist List.filter_sublist sides.1

namespace Payload

def empty : Payload := ⟨[],distinct_object.mpr ⟨List.nodup_nil,fun _ member => (List.not_mem_nil member).elim⟩⟩

def overlaid (base extra : Payload) : Payload := ⟨overlaySections base.fields extra.fields,overlaySections_distinct _ base.distinct extra.distinct⟩

theorem distinct_puts {base : Fields} : ∀ {extra : Fields}, (Value.object base).Distinct → (∀ field ∈ extra, field.2.Distinct) →
    (Value.object (extra.foldl (fun fields field => put field.1 field.2 fields) base)).Distinct := by
  intro extra distinct inner
  induction extra generalizing base with
  | nil => exact distinct
  | cons field extra ih =>
    exact ih (distinct_put distinct (inner field List.mem_cons_self)) fun other member => inner other (List.mem_cons_of_mem _ member)

def update (payload updates : Payload) : Payload :=
  ⟨updates.fields.foldl (fun fields field => put field.1 field.2 fields) payload.fields,
    distinct_puts payload.distinct fun _ member => updates.distinct.field member⟩

def pop (payload : Payload) (key : String) : Payload :=
  ⟨payload.fields.filter fun field => field.1 ≠ key,distinct_sublist List.filter_sublist payload.distinct⟩

end Payload

variable (lower) in
/-- `partition_runtime`. -/
def parts (payload : Payload) (part : Partition) : Payload := ⟨partitionRuntime lower payload.fields part,partition_distinct payload part⟩

inductive OwnerFile
  | absent
  | object (payload : Payload)
  | other

/-- What a manager keeps its runtime configuration in. -/
inductive Stored
  | store (disk : Disk Partition Payload)
  | owner (file : OwnerFile)

/-- The reads that fail: those of the journal, of a partition at the load, of one when the write saves it, and of an owner's file. -/
structure Failing where
  journal : Bool := false
  load : Partition → Bool := fun _ => false
  saved : Partition → Bool := fun _ => false
  owner : Bool := false

def readTolerant (files : Files Partition Payload) (fails : Partition → Bool) : Payload :=
  partitions.foldl (fun combined part => if fails part then combined else combined.overlaid ((files part).getD .empty)) .empty

def loadRuntimeConfig (failing : Failing) : Stored → Option Payload
  | .store disk => some (readTolerant disk.files failing.load)
  | .owner .absent => none
  | .owner (.object payload) => if failing.owner then none else some payload
  | .owner .other => none

def writeRuntimeConfigFile (lower : String → String) (failing : Failing) (payload : Payload) : Stored → Stored × Bool
  | .store disk =>
    if partitions.any fun part => (disk.files part).isSome && failing.saved part then (.store disk,false)
    else (.store (disk.write partitions (parts lower) payload),true)
  | .owner _ => (.owner (.object payload),true)

def Stored.recovered : Stored → Stored
  | .store disk => .store (disk.recover partitions)
  | .owner file => .owner file

def Stored.blocked (stored : Stored) (failing : Failing) : Bool :=
  match stored with
  | .store disk => disk.journal.isSome && failing.journal
  | .owner _ => false

def updateRuntimeConfig (lower : String → String) (failing : Failing) (updates : Payload) (removeKeys : List String) (stored : Stored) :
    Stored × Bool :=
  if stored.blocked failing then (stored,false)
  else
    let runtime := (loadRuntimeConfig failing stored.recovered).getD .empty
    writeRuntimeConfigFile lower failing (removeKeys.foldl Payload.pop (runtime.update updates)) stored.recovered

def getRuntimeConfig (stored : Stored) : Payload := (loadRuntimeConfig {} stored.recovered).getD .empty

def Updated (updates : Payload) (removeKeys : List String) (before after : Payload) : Prop :=
  ∀ key, SameAt (after.fields.lookup key) (if key ∈ removeKeys then none else (updates.fields.lookup key).or (before.fields.lookup key))

/-- An update that returns true is what later reads show, one that returns false has changed nothing. -/
def Kept (lower : String → String) (failing : Failing) (updates : Payload) (removeKeys : List String) (stored : Stored) : Prop :=
  let result := updateRuntimeConfig lower failing updates removeKeys stored
  if result.2 then Updated updates removeKeys (getRuntimeConfig stored) (getRuntimeConfig result.1)
  else getRuntimeConfig result.1 = getRuntimeConfig stored

/-- A read that the write depends on fails. -/
def Refused (failing : Failing) (stored : Stored) : Prop :=
  stored.blocked failing = true ∨ match stored.recovered with
    | .store disk => ∃ part, (disk.files part).isSome ∧ failing.saved part = true
    | .owner _ => False

/-- What the load could read has of every other key what is stored. -/
def LoadsOthers (failing : Failing) (updates : Payload) (removeKeys : List String) (stored : Stored) : Prop :=
  ∀ key, key ∉ keys updates.fields → key ∉ removeKeys →
    SameAt (((loadRuntimeConfig failing stored.recovered).getD .empty).fields.lookup key) ((getRuntimeConfig stored).fields.lookup key)

theorem lookup_puts {extra : Fields} (distinct : (keys extra).Nodup) (base : Fields) (key : String) :
    (extra.foldl (fun fields field => put field.1 field.2 fields) base).lookup key = (extra.lookup key).or (base.lookup key) := by
  induction extra generalizing base with
  | nil => rfl
  | cons field extra ih =>
    obtain ⟨fresh,rest⟩ := List.nodup_cons.mp distinct
    rw [List.foldl_cons,ih rest,lookup_put,lookup_field]
    by_cases same : key = field.1
    · rw [same,if_pos rfl,if_pos rfl,lookup_eq_none.mpr fresh]
      rfl
    · rw [if_neg same,if_neg same]

theorem lookup_kept (removed key : String) (fields : Fields) :
    (fields.filter fun field => field.1 ≠ removed).lookup key = if key = removed then none else fields.lookup key := by
  induction fields with
  | nil => simp
  | cons field fields ih =>
    rw [List.filter_cons,lookup_field]
    by_cases gone : field.1 = removed
    · rw [if_neg (by simp [gone]),ih,gone]
      by_cases same : key = removed
      · rw [if_pos same,if_pos same]
      · rw [if_neg same,if_neg same,if_neg same]
    · rw [if_pos (by simp [gone]),lookup_field,ih]
      by_cases same : key = field.1
      · rw [if_pos same,if_pos same,if_neg (same ▸ gone)]
      · rw [if_neg same,if_neg same]

theorem lookup_pops (payload : Payload) (removeKeys : List String) (key : String) :
    (removeKeys.foldl Payload.pop payload).fields.lookup key = if key ∈ removeKeys then none else payload.fields.lookup key := by
  induction removeKeys generalizing payload with
  | nil => simp
  | cons removed removeKeys ih =>
    rw [List.foldl_cons,ih]
    unfold Payload.pop
    rw [lookup_kept]
    by_cases later : key ∈ removeKeys
    · rw [if_pos later,if_pos (List.mem_cons_of_mem _ later)]
    · by_cases same : key = removed
      · rw [if_neg later,if_pos same,if_pos (same ▸ List.mem_cons_self)]
      · rw [if_neg later,if_neg same,if_neg (by simp [same,later])]

theorem updated_iff {updates loaded before after : Payload} {removeKeys : List String}
    (same : Same (.object after.fields) (.object (removeKeys.foldl Payload.pop (loaded.update updates)).fields)) :
    Updated updates removeKeys before after ↔
      ∀ key, key ∉ keys updates.fields → key ∉ removeKeys → SameAt (loaded.fields.lookup key) (before.fields.lookup key) := by
  have written : ∀ key, SameAt (after.fields.lookup key)
      (if key ∈ removeKeys then none else (updates.fields.lookup key).or (loaded.fields.lookup key)) := by
    intro key
    have there := same.lookup key
    rwa [lookup_pops,show (loaded.update updates).fields.lookup key = _ from lookup_puts updates.distinct.nodup _ _] at there
  constructor
  · intro updated key fresh stays
    have there := (written key).symm.trans (updated key)
    rwa [if_neg stays,if_neg stays,lookup_eq_none.mpr fresh,Option.none_or,Option.none_or] at there
  · intro others key
    refine (written key).trans ?_
    by_cases gone : key ∈ removeKeys
    · rw [if_pos gone,if_pos gone]
      exact .refl none
    · rw [if_neg gone,if_neg gone]
      by_cases fresh : key ∈ keys updates.fields
      · cases found : updates.fields.lookup key with
        | none => exact absurd fresh (lookup_eq_none.mp found)
        | some value => exact .refl (some value)
      · rw [lookup_eq_none.mpr fresh,Option.none_or,Option.none_or]
        exact others key fresh gone

theorem get_written (payload : Payload) (disk : Disk Partition Payload) :
    Same (.object (getRuntimeConfig (.store (disk.write partitions (parts lower) payload))).fields) (.object payload.fields) :=
  combine_partitionRuntime payload.distinct

/-- An update is what later reads show exactly where it is refused or the load could read what the update leaves alone. -/
theorem updateRuntimeConfig_kept (lower : String → String) (failing : Failing) (updates : Payload) (removeKeys : List String) (stored : Stored) :
    Kept lower failing updates removeKeys stored ↔ Refused failing stored ∨ LoadsOthers failing updates removeKeys stored := by
  unfold Kept updateRuntimeConfig
  by_cases blocked : stored.blocked failing = true
  · rw [if_pos blocked]
    exact iff_of_true rfl (.inl (.inl blocked))
  · rw [if_neg blocked]
    cases stored with
    | store disk =>
      dsimp only [Stored.recovered,writeRuntimeConfigFile]
      by_cases unread : (partitions.any fun part => ((disk.recover partitions).files part).isSome && failing.saved part) = true
      · rw [if_pos unread]
        obtain ⟨part,_,both⟩ := List.any_eq_true.mp unread
        refine iff_of_true ?_ (.inl (.inr ⟨part,by simpa using both⟩))
        show getRuntimeConfig (.store (disk.recover partitions)) = getRuntimeConfig (.store disk)
        unfold getRuntimeConfig Stored.recovered
        dsimp only
        rw [Disk.recover_recover]
      · rw [if_neg unread]
        have free : ¬Refused failing (.store disk) := by
          rintro (wrong | ⟨part,present,fails⟩)
          · exact blocked wrong
          · exact unread (List.any_eq_true.mpr ⟨part,mem_partitions part,by simp [present,fails]⟩)
        rw [or_iff_right free]
        exact updated_iff (get_written _ _)
    | owner file =>
      have free : ¬Refused failing (.owner file) := by
        rintro (wrong | wrong)
        · exact blocked wrong
        · exact wrong
      rw [or_iff_right free]
      exact updated_iff (.refl _)

def single (key text : String) : Payload :=
  ⟨[(key,.string text)],distinct_put Payload.empty.distinct fun _ within => nomatch within⟩

def hostDisk : Disk Partition Payload := ⟨fun part => if part = .deployment then some (single "ubuntu_host" "10.0.0.1") else none,none⟩

theorem update_drops : ¬Kept id {load := fun part => part = .deployment} (single "theme" "dark") [] (.store hostDisk) ∧
    ¬Kept id {owner := true} (single "theme" "dark") [] (.owner (.object (single "ubuntu_host" "10.0.0.1"))) := by
  constructor
  · intro kept
    have updated : Updated _ _ _ _ := kept
    have lost : SameAt none (some (.string "10.0.0.1")) := updated "ubuntu_host"
    cases lost
  · intro kept
    have updated : Updated _ _ _ _ := kept
    have lost : SameAt none (some (.string "10.0.0.1")) := updated "ubuntu_host"
    cases lost

end GmsRemoteTest.RuntimeConfig
