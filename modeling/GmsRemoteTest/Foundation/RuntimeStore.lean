import GmsRemoteTest.Lib.UndoJournal
import GmsRemoteTest.Foundation.RuntimePartition

/-! `RuntimeConfigStore`: the four parts of the configuration in four files, with a journal of what they held
before. A read gives what the last write gave, whatever became of the calls in between. A write that raises after
it has removed its journal has taken effect all the same. -/
namespace GmsRemoteTest.RuntimeConfig
open Json UndoJournal

/-- A configuration: a JSON object, none of whose objects has a key twice. -/
structure Payload where
  fields : Fields
  distinct : (Value.object fields).Distinct

variable (lower : String → String)

/-- What `write` puts into the files. -/
def contents (payload : Payload) : Partition → Fields := partitionRuntime lower payload.fields

def readParts (files : Files Partition Fields) : Fields := combine fun part => (files part).getD []

/-- `RuntimeConfigStore.read` when nothing fails. -/
def read (disk : Disk Partition Fields) : Fields := readParts (disk.recover partitions).files

/-- `RuntimeConfigStore.write` when nothing fails. -/
def write (payload : Payload) (disk : Disk Partition Fields) : Disk Partition Fields :=
  disk.write partitions (contents lower) payload

variable {lower}

theorem mem_partitions (part : Partition) : part ∈ partitions := by cases part <;> decide

theorem write_files (payload : Payload) (disk : Disk Partition Fields) :
    (write lower payload disk).files = fun part => some (contents lower payload part) := by
  funext part
  cases part <;> rfl

theorem readParts_contents (payload : Payload) :
    Same (.object (readParts fun part => some (contents lower payload part))) (.object payload.fields) :=
  combine_partitionRuntime payload.distinct

/-- The parts of a configuration give it back, the credentials stay out of the other three, and so a read after a
write returns what was written. -/
theorem partitions_restore (lower : String → String) :
    (∀ payload : Payload, Same (.object (combine (partitionRuntime lower payload.fields))) (.object payload.fields)) ∧
    (∀ (payload : Payload) (part : Partition) (key : String), part ≠ .credentials →
      (Value.object (partitionRuntime lower payload.fields part)).HasKey key →
      key ∉ CREDENTIAL_KEYS ∧ isSecretField lower key = false) ∧
    ∀ (payload : Payload) (disk : Disk Partition Fields), Same (.object (read (write lower payload disk))) (.object payload.fields) := by
  refine ⟨fun payload => combine_partitionRuntime payload.distinct,?_,?_⟩
  · intro payload part key open_ has
    have clean := secretKey_of_hasKey (partition_clean payload.fields open_) has
    unfold secretKey at clean
    rw [Bool.or_eq_false_iff] at clean
    exact ⟨fun listed => by simp [listed] at clean,clean.2⟩
  · intro payload disk
    have kept : (write lower payload disk).recover partitions = write lower payload disk := rfl
    rw [read,kept,write_files]
    exact readParts_contents payload

/-- What a read may return after a write that returned and the writes that were interrupted since. -/
def Returned (initial : Files Partition Fields) (read : Read Partition Fields Payload) : Prop :=
  ∃ payload ∈ read.last :: read.interrupted.map some,
    Same (.object (readParts read.files)) (.object (payload.elim (readParts initial) Payload.fields))

theorem returned_of_allowed {initial : Files Partition Fields} {read : Read Partition Fields Payload}
    (allowed : Allowed (contents lower) initial read.last read.interrupted read.files) : Returned initial read := by
  obtain ⟨payload,member,same⟩ := allowed
  refine ⟨payload,member,?_⟩
  rw [same]
  cases payload with
  | none => exact .refl _
  | some payload => exact readParts_contents payload

theorem reads_whole {initial : Files Partition Fields} {guard : World Partition Fields Payload → Event Payload → Prop}
    {world : World Partition Fields Payload}
    (reached : Runs.Reached (World.apply partitions (contents lower)) guard (World.start initial) world) :
    ∀ read ∈ world.reads, Returned initial read :=
  fun read member => returned_of_allowed ((Reached.sound mem_partitions reached).reads read member)

section
variable (lower) (initial : Files Partition Fields) (events : List (Event Payload))

/-- Every read of every run returns one configuration as a whole. -/
theorem reads_unmixed :
    (Runs.exec (World.apply partitions (contents lower)) (World.start initial) events).reads.Forall (Returned initial) :=
  List.forall_iff_forall_mem.mpr (@reads_whole _ _ (fun _ _ => True) _ (.along .start events (.all (fun _ _ => trivial) _ _)))

/-- Wherever the last call of a run dies: a write that is let through afterwards is what the next read returns. -/
theorem write_then_read (payload : Payload) :
    let died := Runs.exec (World.apply partitions (contents lower)) (World.start initial) (events ++ [.crash])
    ∃ written next read, (died.apply partitions (contents lower) (.begin (some payload))).Steps partitions (contents lower) written ∧
      (written.apply partitions (contents lower) (.begin none)).Steps partitions (contents lower) next ∧
      next.running = none ∧ next.reads = read :: died.reads ∧ Same (.object (readParts read.files)) (.object payload.fields) := by
  have idle : (Runs.exec (World.apply partitions (contents lower)) (World.start initial) (events ++ [.crash])).running = none := by
    rw [Runs.exec_append]
    generalize Runs.exec _ _ events = world
    obtain ⟨disk,running,_⟩ := world
    cases running <;> rfl
  refine ⟨_,_,_,write_steps idle payload,read_steps idle,idle,rfl,?_⟩
  show Same (.object (readParts (write lower payload _).files)) _
  rw [write_files]
  exact readParts_contents payload

end

/-- Unless a write raises once its journal is gone, each read returns what the last write wrote or one that was
interrupted since, and a write that raised has changed nothing. -/
theorem writes_atomic {lower : String → String} {initial : Files Partition Fields} {world : World Partition Fields Payload}
    (reached : Runs.Reached (World.apply partitions (contents lower)) World.Uncommitted (World.start initial) world) :
    (∀ read ∈ world.reads, Returned initial read) ∧ ∀ raised ∈ world.raised, raised.after = raised.before :=
  ⟨reads_whole reached,Reached.kept mem_partitions reached⟩

def operatorPayload : Payload where
  fields := [("ubuntu_user",.string "operator")]
  distinct := by
    intro fields within
    cases within with
    | self => exact List.nodup_singleton _
    | field member inner =>
      cases List.mem_singleton.mp member
      cases inner

def committing : List (Event Payload) := .begin (some operatorPayload) :: List.replicate 8 .step

theorem writes_atomic_operator :
    let events := committing ++ [.step,.begin none,.step]
    let world := Runs.exec (World.apply partitions (contents id)) (World.start fun _ => none) events
    world.reads.length = 1 ∧ (∀ read ∈ world.reads, Returned (fun _ => none) read) ∧
      ∀ raised ∈ world.raised, raised.after = raised.before := by
  refine ⟨rfl,writes_atomic (Runs.Reached.along .start _ ?_)⟩
  simp [committing,Runs.Along,World.Uncommitted]

/-- A write that raises after it has removed its journal leaves its own configuration in place. -/
theorem raised_write_committed :
    ¬ ∀ (lower : String → String) (initial : Files Partition Fields) (world : World Partition Fields Payload),
      Runs.Reached (World.apply partitions (contents lower)) (fun _ _ => True) (World.start initial) world →
      (∀ read ∈ world.reads, Returned initial read) ∧ ∀ raised ∈ world.raised, raised.after = raised.before := by
  intro all
  have reached : Runs.Reached (World.apply partitions (contents id)) (fun _ _ => True) (World.start fun _ => none) _ :=
    Runs.Reached.along .start (committing ++ [.raise false]) (Runs.Along.all (fun _ _ => trivial) _ _)
  have same := (all id (fun _ => none) _ reached).2 _ (List.mem_cons_self ..)
  cases congrFun same .preferences

end GmsRemoteTest.RuntimeConfig
