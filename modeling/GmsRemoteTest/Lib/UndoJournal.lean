import Mathlib.Data.List.Basic
import GmsRemoteTest.Lib.Runs

/-! A payload kept in several files that are replaced one by one, with an undo journal beside them: a call first undoes
what an earlier one left behind, a write then saves all files in the journal, replaces them and removes it. Any call may
crash or fail between two durable steps; only the removal of a write's own journal changes what is in place. -/
namespace UndoJournal

variable {Name Content Payload : Type}

abbrev Files (Name Content : Type) := Name → Option Content

structure Disk (Name Content : Type) where
  files : Files Name Content
  journal : Option (Files Name Content)

def Disk.inPlace (disk : Disk Name Content) : Files Name Content := disk.journal.getD disk.files

inductive Phase (Name : Type) where
  | recovering (rest : List Name)
  | reading
  | journaling
  | journaled
  | filling (rest : List Name)
  | finishing
  | returning
  | restoring (rest : List Name)

/-- A call in progress, a read when it has no payload; `before` is what was in place when it began. -/
structure Call (Name Content Payload : Type) where
  payload : Option Payload
  phase : Phase Name
  before : Files Name Content

structure Read (Name Content Payload : Type) where
  files : Files Name Content
  last : Option Payload
  interrupted : List Payload

structure Raised (Name Content : Type) where
  before : Files Name Content
  after : Files Name Content

structure World (Name Content Payload : Type) where
  disk : Disk Name Content
  running : Option (Call Name Content Payload) := none
  last : Option Payload := none
  interrupted : List Payload := []
  reads : List (Read Name Content Payload) := []
  raised : List (Raised Name Content) := []

/-- A call starts, goes one step on, its process ends, or it fails where it is; `caught` is a failure that the
handler around the replacement of the files catches. -/
inductive Event (Payload : Type) where
  | begin (payload : Option Payload)
  | step
  | crash
  | raise (caught : Bool)

def Phase.opening (payload : Option Payload) : Phase Name := if payload.isSome then .journaling else .reading

def World.abandon (world : World Name Content Payload) (call : Call Name Content Payload) : World Name Content Payload :=
  {world with running := none,interrupted := call.payload.toList ++ world.interrupted}

def World.raise (world : World Name Content Payload) (call : Call Name Content Payload) : World Name Content Payload :=
  let ended := world.abandon call
  if call.payload.isSome then {ended with raised := ⟨call.before,world.disk.inPlace⟩ :: world.raised} else ended

variable [DecidableEq Name] (names : List Name) (contents : Payload → Name → Content)

def Disk.restore (disk : Disk Name Content) (name : Name) : Disk Name Content :=
  {disk with files := Function.update disk.files name (disk.inPlace name)}

def World.step (world : World Name Content Payload) (call : Call Name Content Payload) : World Name Content Payload :=
  let goto := fun (disk : Disk Name Content) phase => {world with disk,running := some {call with phase}}
  match call.phase with
  | .recovering (name :: rest) => goto (world.disk.restore name) (.recovering rest)
  | .recovering [] => goto {world.disk with journal := none} (Phase.opening call.payload)
  | .reading =>
    {world with running := none,reads := ⟨world.disk.files,world.last,world.interrupted⟩ :: world.reads}
  | .journaling => goto {world.disk with journal := some world.disk.files} .journaled
  | .journaled => goto world.disk (.filling names)
  | .filling (name :: rest) =>
    goto {world.disk with files := Function.update world.disk.files name (call.payload.map fun payload => contents payload name)}
      (.filling rest)
  | .filling [] => goto world.disk .finishing
  | .finishing => goto {world.disk with journal := none} .returning
  | .returning => {world with running := none,last := call.payload,interrupted := []}
  | .restoring (name :: rest) => goto (world.disk.restore name) (.restoring rest)
  | .restoring [] =>
    {world with disk := {world.disk with journal := none}}.raise call

def World.apply (event : Event Payload) (world : World Name Content Payload) : World Name Content Payload :=
  match event, world.running with
  | .begin payload, none =>
    let phase := if world.disk.journal.isSome then .recovering names else Phase.opening payload
    {world with running := some ⟨payload,phase,world.disk.inPlace⟩}
  | .step, some call => world.step names contents call
  | .crash, some call => world.abandon call
  | .raise caught, some call => match call.phase, caught with
    | .filling _, true => {world with running := some {call with phase := .restoring names}}
    | _, _ => world.raise call
  | _, _ => world

def World.start (files : Files Name Content) : World Name Content Payload := {disk := ⟨files,none⟩}

section

variable {Name Content Payload : Type} (contents : Payload → Name → Content) (initial : Files Name Content)

def filesOf (payload : Option Payload) : Files Name Content :=
  payload.elim initial fun payload name => some (contents payload name)

/-- The files of the last write that returned, or of one that ended otherwise since. -/
def Allowed (last : Option Payload) (interrupted : List Payload) (files : Files Name Content) : Prop :=
  ∃ payload ∈ last :: interrupted.map some, files = filesOf contents initial payload

/-- How far a call has come with the files, and that it left in place what was there. -/
def Call.Sound (disk : Disk Name Content) (call : Call Name Content Payload) : Prop :=
  match call.phase with
  | .recovering rest => disk.journal = some call.before ∧ ∀ name, name ∉ rest → disk.files name = call.before name
  | .reading => disk.journal = none ∧ disk.files = call.before
  | .journaling => disk.journal = none ∧ disk.files = call.before ∧ call.payload.isSome
  | .journaled => disk.journal = some call.before ∧ call.payload.isSome
  | .filling rest => disk.journal = some call.before ∧ call.payload.isSome ∧
      ∀ name, name ∉ rest → disk.files name = call.payload.map fun payload => contents payload name
  | .finishing => disk.journal = some call.before ∧ call.payload.isSome ∧
      ∀ name, disk.files name = call.payload.map fun payload => contents payload name
  | .returning => disk.journal = none ∧ call.payload.isSome ∧
      ∀ name, disk.files name = call.payload.map fun payload => contents payload name
  | .restoring rest => disk.journal = some call.before ∧ call.payload.isSome ∧
      ∀ name, name ∉ rest → disk.files name = call.before name

structure World.Sound (world : World Name Content Payload) : Prop where
  idle : world.running = none → Allowed contents initial world.last world.interrupted world.disk.inPlace
  running : ∀ call, world.running = some call →
    call.Sound contents world.disk ∧ Allowed contents initial world.last world.interrupted call.before
  reads : ∀ read ∈ world.reads, Allowed contents initial read.last read.interrupted read.files

variable {contents initial}

theorem Allowed.more {last : Option Payload} {interrupted more : List Payload} {files : Files Name Content}
    (allowed : Allowed contents initial last interrupted files) : Allowed contents initial last (more ++ interrupted) files := by
  obtain ⟨payload,member,same⟩ := allowed
  refine ⟨payload,?_,same⟩
  rcases List.mem_cons.mp member with rfl | older
  · exact List.mem_cons_self ..
  · rw [List.map_append]
    exact List.mem_cons_of_mem _ (List.mem_append_right _ older)

theorem allowed_own {last : Option Payload} {interrupted : List Payload} {payload : Option Payload} {files : Files Name Content}
    (writes : payload.isSome) (same : ∀ name, files name = payload.map fun payload => contents payload name) :
    Allowed contents initial last (payload.toList ++ interrupted) files := by
  obtain ⟨payload,rfl⟩ := Option.isSome_iff_exists.mp writes
  exact ⟨some payload,by simp,funext same⟩

theorem Call.Sound.inPlace {disk : Disk Name Content} {call : Call Name Content Payload} (sound : call.Sound contents disk)
    (open_ : call.phase ≠ .returning) : disk.inPlace = call.before := by
  unfold Call.Sound at sound
  unfold Disk.inPlace
  split at sound
  · rw [sound.1,Option.getD_some]
  · rw [sound.1,Option.getD_none,sound.2]
  · rw [sound.1,Option.getD_none,sound.2.1]
  · rw [sound.1,Option.getD_some]
  · rw [sound.1,Option.getD_some]
  · rw [sound.1,Option.getD_some]
  · rename_i returning
    exact (open_ returning).elim
  · rw [sound.1,Option.getD_some]

theorem Call.Sound.ends {disk : Disk Name Content} {call : Call Name Content Payload} {last : Option Payload}
    {interrupted : List Payload} (sound : call.Sound contents disk) (allowed : Allowed contents initial last interrupted call.before) :
    Allowed contents initial last (call.payload.toList ++ interrupted) disk.inPlace := by
  by_cases returning : call.phase = .returning
  · unfold Call.Sound at sound
    rw [returning] at sound
    obtain ⟨none,writes,same⟩ := sound
    unfold Disk.inPlace
    rw [none,Option.getD_none]
    exact allowed_own writes same
  · rw [sound.inPlace returning]
    exact allowed.more

section
variable {world : World Name Content Payload}

theorem World.Sound.abandon (sound : world.Sound contents initial)
    {call : Call Name Content Payload} (runs : world.running = some call) : (world.abandon call).Sound contents initial where
  idle := fun _ => (sound.running call runs).1.ends (sound.running call runs).2
  running := fun _ none => by cases none
  reads := sound.reads

theorem World.Sound.raise {call : Call Name Content Payload}
    (abandoned : (world.abandon call).Sound contents initial) : (world.raise call).Sound contents initial := by
  unfold World.raise
  dsimp only
  split
  · exact ⟨abandoned.idle,abandoned.running,abandoned.reads⟩
  · exact abandoned

theorem World.Sound.goto (sound : world.Sound contents initial) {call : Call Name Content Payload}
    (runs : world.running = some call) {disk : Disk Name Content} {phase : Phase Name}
    (next : Call.Sound contents disk {call with phase}) :
    World.Sound contents initial {world with disk,running := some {call with phase}} where
  idle := fun none => by cases none
  running := by
    intro other same
    cases same
    exact ⟨next,(sound.running call runs).2⟩
  reads := sound.reads

end

theorem opening_sound {disk : Disk Name Content} {payload : Option Payload} {before : Files Name Content} (none : disk.journal = none)
    (same : disk.files = before) : Call.Sound contents disk ⟨payload,Phase.opening payload,before⟩ := by
  cases payload with
  | none => exact ⟨none,same⟩
  | some payload => exact ⟨none,same,rfl⟩

theorem start_sound : (World.start initial : World Name Content Payload).Sound contents initial where
  idle := fun _ => ⟨none,List.mem_cons_self ..,rfl⟩
  running := fun _ none => by cases none
  reads := fun _ member => by cases member

/-- No call fails after it has removed the journal of its own write. -/
def World.Uncommitted (world : World Name Content Payload) : Event Payload → Prop
  | .raise _ => ∀ call, world.running = some call → call.phase ≠ .returning
  | _ => True

/-- Every write that raised left in place what was there. -/
def World.Kept (world : World Name Content Payload) : Prop := ∀ raised ∈ world.raised, raised.after = raised.before

theorem World.Kept.raise {world : World Name Content Payload} (kept : world.Kept) {call : Call Name Content Payload}
    (same : world.disk.inPlace = call.before) : (world.raise call).Kept := by
  unfold World.raise
  dsimp only
  split
  · intro raised member
    rcases List.mem_cons.mp member with rfl | older
    · exact same
    · exact kept raised older
  · exact kept

end

variable {names contents} {initial : Files Name Content}

theorem update_covers {files target : Files Name Content} {name : Name} {rest : List Name}
    (covered : ∀ other, other ∉ name :: rest → files other = target other) :
    ∀ other, other ∉ rest → Function.update files name (target name) other = target other := by
  intro other absent
  by_cases here : other = name
  · rw [here,Function.update_self]
  · rw [Function.update_of_ne here]
    exact covered other (by simp [here,absent])

section
variable (all : ∀ name, name ∈ names) {world : World Name Content Payload} (sound : world.Sound contents initial)
include all sound

theorem World.Sound.step {call : Call Name Content Payload} (runs : world.running = some call) : (world.step names contents call).Sound contents initial := by
  obtain ⟨held,allowed⟩ := sound.running call runs
  obtain ⟨payload,phase,before⟩ := call
  unfold World.step
  unfold Call.Sound at held
  dsimp only at held allowed ⊢
  cases phase with
  | recovering rest =>
    have place : world.disk.inPlace = before := by rw [Disk.inPlace,held.1,Option.getD_some]
    cases rest with
    | nil => exact sound.goto runs (opening_sound rfl (funext fun name => held.2 name List.not_mem_nil))
    | cons name rest =>
      refine sound.goto runs ⟨held.1,?_⟩
      unfold Disk.restore
      rw [place]
      exact update_covers held.2
  | reading =>
    have place : world.disk.inPlace = before := by rw [Disk.inPlace,held.1,Option.getD_none,held.2]
    refine ⟨fun _ => ?_,?_,?_⟩
    · rw [← place] at allowed
      exact allowed
    · intro other none
      cases none
    · intro read member
      rcases List.mem_cons.mp member with rfl | older
      · rw [← held.2] at allowed
        exact allowed
      · exact sound.reads read older
  | journaling => exact sound.goto runs ⟨congrArg some held.2.1,held.2.2⟩
  | journaled => exact sound.goto runs ⟨held.1,held.2,fun name absent => (absent (all name)).elim⟩
  | filling rest =>
    cases rest with
    | nil => exact sound.goto runs ⟨held.1,held.2.1,fun name => held.2.2 name List.not_mem_nil⟩
    | cons name rest => exact sound.goto runs ⟨held.1,held.2.1,update_covers held.2.2⟩
  | finishing => exact sound.goto runs ⟨rfl,held.2.1,held.2.2⟩
  | returning =>
    refine ⟨fun _ => ?_,?_,sound.reads⟩
    · obtain ⟨none,writes,same⟩ := held
      obtain ⟨payload,rfl⟩ := Option.isSome_iff_exists.mp writes
      refine ⟨some payload,List.mem_cons_self ..,?_⟩
      rw [Disk.inPlace,none,Option.getD_none]
      exact funext same
    · intro other none
      cases none
  | restoring rest =>
    have place : world.disk.inPlace = before := by rw [Disk.inPlace,held.1,Option.getD_some]
    cases rest with
    | nil =>
      refine World.Sound.raise ⟨fun _ => ?_,?_,sound.reads⟩
      · have same : world.disk.files = before := funext fun name => held.2.2 name List.not_mem_nil
        rw [← same] at allowed
        exact allowed.more
      · intro other none
        cases none
    | cons name rest =>
      refine sound.goto runs ⟨held.1,held.2.1,?_⟩
      unfold Disk.restore
      rw [place]
      exact update_covers held.2.2

theorem World.Sound.apply (event : Event Payload) : (world.apply names contents event).Sound contents initial := by
  unfold World.apply
  split
  · rename_i payload idle
    have allowed := sound.idle idle
    refine ⟨?_,?_,sound.reads⟩
    · intro none
      cases none
    intro call same
    cases same
    refine ⟨?_,allowed⟩
    cases journal : world.disk.journal with
    | none => exact opening_sound journal (by rw [Disk.inPlace,journal,Option.getD_none])
    | some previous =>
      have place : world.disk.inPlace = previous := by rw [Disk.inPlace,journal,Option.getD_some]
      exact ⟨by rw [place]; exact journal,fun name absent => (absent (all name)).elim⟩
  · exact sound.step all ‹_›
  · exact sound.abandon ‹_›
  · rename_i caught call runs
    split
    · rename_i rest filling
      obtain ⟨held,-⟩ := sound.running call runs
      unfold Call.Sound at held
      rw [filling] at held
      exact sound.goto runs ⟨held.1,held.2.1,fun name absent => (absent (all name)).elim⟩
    · exact World.Sound.raise (sound.abandon runs)
  · exact sound

end

theorem Reached.sound (all : ∀ name, name ∈ names) {guard : World Name Content Payload → Event Payload → Prop}
    {world : World Name Content Payload} (reached : Runs.Reached (World.apply names contents) guard (World.start initial) world) :
    world.Sound contents initial :=
  reached.invariant (fun world => world.Sound contents initial) start_sound fun _ event sound _ => sound.apply all event

section
variable {world : World Name Content Payload} (sound : world.Sound contents initial) (kept : world.Kept)
include sound kept

theorem World.Kept.step {call : Call Name Content Payload} (runs : world.running = some call) : (world.step names contents call).Kept := by
  have held := (sound.running call runs).1
  unfold World.step
  unfold Call.Sound at held
  dsimp only
  split
  all_goals first | exact kept | skip
  rename_i restored
  rw [restored] at held
  refine World.Kept.raise ?_ ?_
  · exact kept
  · exact funext fun name => held.2.2 name List.not_mem_nil

theorem World.Kept.apply {event : Event Payload} (uncommitted : world.Uncommitted event) : (world.apply names contents event).Kept := by
  unfold World.apply
  split
  · exact kept
  · exact kept.step sound ‹_›
  · exact kept
  · rename_i caught call runs
    split
    · exact kept
    · exact kept.raise ((sound.running call runs).1.inPlace (uncommitted call runs))
  · exact kept

end

theorem Reached.kept (all : ∀ name, name ∈ names) {world : World Name Content Payload}
    (reached : Runs.Reached (World.apply names contents) World.Uncommitted (World.start initial) world) : world.Kept :=
  (reached.invariant (fun world => world.Sound contents initial ∧ world.Kept) ⟨start_sound,fun _ member => by cases member⟩
    fun _ event held uncommitted => ⟨held.1.apply all event,held.2.apply held.1 uncommitted⟩).2

section

variable (names : List Name) (contents : Payload → Name → Content)

def Disk.recover (disk : Disk Name Content) : Disk Name Content :=
  match disk.journal with
  | none => disk
  | some previous => ⟨names.foldl (fun files name => Function.update files name (previous name)) disk.files,none⟩

def Disk.write (payload : Payload) (disk : Disk Name Content) : Disk Name Content :=
  ⟨names.foldl (fun files name => Function.update files name (some (contents payload name))) (disk.recover names).files,none⟩

def World.at (world : World Name Content Payload) (disk : Disk Name Content) (call : Call Name Content Payload) :
    World Name Content Payload := {world with disk,running := some call}

def World.Steps (world next : World Name Content Payload) : Prop :=
  ∃ count, Runs.exec (World.apply names contents) world (List.replicate count .step) = next

end

theorem Disk.recover_recover (names : List Name) (disk : Disk Name Content) : (disk.recover names).recover names = disk.recover names := by
  obtain ⟨files,journal⟩ := disk
  cases journal with
  | none => rfl
  | some previous => rfl

theorem World.Steps.trans {world between next : World Name Content Payload} (first : world.Steps names contents between)
    (second : between.Steps names contents next) : world.Steps names contents next := by
  obtain ⟨count,rfl⟩ := first
  obtain ⟨more,rfl⟩ := second
  exact ⟨count + more,by rw [← List.replicate_append_replicate,Runs.exec_append]⟩

theorem World.Steps.one (world : World Name Content Payload) : world.Steps names contents (world.apply names contents .step) := ⟨1,rfl⟩

theorem recovering_steps (world : World Name Content Payload) (payload : Option Payload) (before previous : Files Name Content) :
    ∀ (rest : List Name) (files : Files Name Content),
    (world.at ⟨files,some previous⟩ ⟨payload,.recovering rest,before⟩).Steps names contents
      (world.at ⟨rest.foldl (fun files name => Function.update files name (previous name)) files,none⟩
        ⟨payload,Phase.opening payload,before⟩)
  | [], _ => .one _
  | _ :: rest, _ => (World.Steps.one _).trans (recovering_steps world payload before previous rest _)

theorem filling_steps (world : World Name Content Payload) (payload : Payload) (before previous : Files Name Content) :
    ∀ (rest : List Name) (files : Files Name Content),
    (world.at ⟨files,some previous⟩ ⟨some payload,.filling rest,before⟩).Steps names contents
      (world.at ⟨rest.foldl (fun files name => Function.update files name (some (contents payload name))) files,some previous⟩
        ⟨some payload,.finishing,before⟩)
  | [], _ => .one _
  | _ :: rest, _ => (World.Steps.one _).trans (filling_steps world payload before previous rest _)

section
variable {world : World Name Content Payload} (idle : world.running = none)
include idle

theorem opening_steps (payload : Option Payload) :
    (world.apply names contents (.begin payload)).Steps names contents
      (world.at (world.disk.recover names) ⟨payload,Phase.opening payload,world.disk.inPlace⟩) := by
  obtain ⟨⟨files,journal⟩,running,_,_,_,_⟩ := world
  cases idle
  cases journal with
  | none => exact ⟨0,rfl⟩
  | some previous => exact recovering_steps _ payload previous previous names files

theorem read_steps :
    (world.apply names contents (.begin none)).Steps names contents
      {world with disk := world.disk.recover names,
                  reads := ⟨(world.disk.recover names).files,world.last,world.interrupted⟩ :: world.reads} := by
  have done : (world.at (world.disk.recover names) ⟨none,Phase.opening (none : Option Payload),world.disk.inPlace⟩).apply names contents .step =
      {world with disk := world.disk.recover names,
                  reads := ⟨(world.disk.recover names).files,world.last,world.interrupted⟩ :: world.reads} := by
    obtain ⟨_,running,_,_,_,_⟩ := world
    cases idle
    rfl
  rw [← done]
  exact (opening_steps idle none).trans (.one _)

theorem write_steps (payload : Payload) :
    (world.apply names contents (.begin (some payload))).Steps names contents
      {world with disk := world.disk.write names contents payload,last := some payload,interrupted := []} := by
  obtain ⟨disk,running,last,interrupted,reads,raised⟩ := world
  cases idle
  refine (opening_steps rfl (some payload)).trans ?_
  refine World.Steps.trans (.one _) (World.Steps.trans (.one _) ?_)
  exact (filling_steps _ payload _ _ names _).trans ((World.Steps.one _).trans (.one _))

end

end UndoJournal
