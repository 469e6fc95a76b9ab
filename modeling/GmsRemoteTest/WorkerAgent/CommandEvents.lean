import GmsRemoteTest.Lib.Runs
import Mathlib.Tactic.SplitIfs

/-! The events of a command on their way to the Controller. The caller puts events into a bounded queue and in the end
flushes it; the uploader thread takes batches from the front and retries each until it is accepted. Between any two
steps of a call the thread may take its own. -/
namespace GmsRemoteTest.WorkerAgent.CommandEvents
open Runs

def maxQueueEvents : Nat := 20000

def CommandEventBatch {Event : Type} (batch : List Event) : Prop := 1 ≤ batch.length ∧ batch.length ≤ 100

instance {Event : Type} (batch : List Event) : Decidable (CommandEventBatch batch) := instDecidableAnd

inductive Thread (Event : Type)
  /-- at the head of the loop of `_run` -/
  | turn (pendingBatch : Option (List Event))
  /-- `_collect_batch` waits for its first event -/
  | waiting
  /-- and takes more of them -/
  | filling (batch : List Event)
  /-- nothing was collected: the thread waits for `_stopped` -/
  | idle
  | uploading (batch : List Event)
  /-- the upload failed: the thread waits out the backoff -/
  | backing (batch : List Event)
  /-- the upload after `_stopped` was set -/
  | last (batch : List Event)
  | ended
deriving DecidableEq

/-- Where the caller stands in `submit` or `flush`. -/
inductive Caller (Event : Type)
  | free
  /-- `_stopped` was not set -/
  | putting (event : Event)
  /-- the queue was full -/
  | evicting (event : Event)
  | again (event : Event)
  /-- `flush` waits for an empty queue -/
  | draining
  /-- for the batch in flight -/
  | settling (empty : Bool)
  | stopping (drained : Bool)
  /-- for the end of the thread -/
  | joining (drained : Bool)
deriving DecidableEq

structure World (Event : Type) where
  queue : List Event := []
  stopped : Bool := false
  dropped : Nat := 0
  thread : Thread Event := .turn none
  caller : Caller Event := .free
  /-- the events that `submit` was called with -/
  submitted : List Event := []
  /-- the batches that `_upload` was called with -/
  attempts : List (List Event) := []
  /-- those that were accepted -/
  uploaded : List (List Event) := []
  /-- a `flush` saw the queue empty, no batch in flight and the thread at its end -/
  drained : Bool := false
deriving DecidableEq

variable {Event : Type}

/-- `_inflight` is zero. -/
def Thread.settled : Thread Event → Bool
  | .uploading _ | .backing _ | .last _ => false
  | _ => true

def Thread.over : Thread Event → Bool
  | .ended => true
  | _ => false

/-- The next step of the thread; `accepted` is what an upload meets. -/
def World.run (batchSize : Nat) (accepted : Bool) (world : World Event) : World Event :=
  match world.thread with
  | .turn pendingBatch =>
    if world.stopped = true ∧ pendingBatch.getD [] = [] ∧ world.queue = [] then {world with thread := .ended}
    else match pendingBatch with
    | none => {world with thread := .waiting}
    | some batch => {world with thread := .uploading batch, attempts := world.attempts ++ [batch]}
  | .waiting => match world.queue with
    | [] => {world with thread := .idle}
    | event :: queue => {world with thread := .filling [event], queue := queue}
  | .filling batch =>
    if batch.length < batchSize ∧ world.queue ≠ [] then
      {world with thread := .filling (batch ++ world.queue.head?.toList), queue := world.queue.tail}
    else {world with thread := .uploading batch, attempts := world.attempts ++ [batch]}
  | .idle =>
    -- `pending_batch` is the empty list here, not `None`
    if world.stopped = true ∧ world.queue = [] then {world with thread := .ended} else {world with thread := .turn (some [])}
  | .uploading batch =>
    if accepted = true ∧ CommandEventBatch batch then {world with thread := .turn none, uploaded := world.uploaded ++ [batch]}
    else {world with thread := .backing batch}
  | .backing batch =>
    if world.stopped = true then {world with thread := .last batch, attempts := world.attempts ++ [batch]}
    else {world with thread := .turn (some batch)}
  | .last batch =>
    if accepted = true ∧ CommandEventBatch batch then {world with thread := .ended, uploaded := world.uploaded ++ [batch]}
    else {world with thread := .ended, dropped := world.dropped + batch.length}
  | .ended => world

/-- The next step of `submit` or `flush`; `late` says that the time of a wait is over. -/
def World.call (late : Bool) (world : World Event) : World Event :=
  match world.caller with
  | .free => world
  | .putting event =>
    if world.queue.length < maxQueueEvents then {world with caller := .free, queue := world.queue ++ [event]}
    else {world with caller := .evicting event}
  | .evicting event =>
    if world.queue = [] then {world with caller := .again event}
    else {world with caller := .again event, queue := world.queue.tail, dropped := world.dropped + 1}
  | .again event =>
    if world.queue.length < maxQueueEvents then {world with caller := .free, queue := world.queue ++ [event]}
    else {world with caller := .free}
  | .draining =>
    if world.queue = [] then {world with caller := .settling true}
    else if late then {world with caller := .settling false} else world
  | .settling empty =>
    if world.thread.settled then {world with caller := .stopping empty}
    else if late then {world with caller := .stopping false} else world
  | .stopping drained => {world with caller := .joining drained, stopped := true}
  | .joining drained =>
    if world.thread.over then {world with caller := .free, drained := world.drained || drained}
    else if late then {world with caller := .free} else world

inductive Act (Event : Type)
  | submit (event : Event)
  | flush
  | call (late : Bool)
  | run (accepted : Bool)

def Caller.isFree : Caller Event → Bool
  | .free => true
  | _ => false

def World.submit (event : Event) (world : World Event) : World Event :=
  if world.stopped then {world with submitted := world.submitted ++ [event], dropped := world.dropped + 1}
  else {world with submitted := world.submitted ++ [event], caller := .putting event}

/-- One step of the caller or of the thread; a call begins when the one before it has returned. -/
def apply (batchSize : Nat) (act : Act Event) (world : World Event) : World Event :=
  match act with
  | .submit event => if world.caller.isFree then world.submit event else world
  | .flush => if world.caller.isFree then {world with caller := .draining} else world
  | .call late => world.call late
  | .run accepted => world.run batchSize accepted

def Thread.held : Thread Event → List Event
  | .turn pendingBatch => pendingBatch.getD []
  | .filling batch | .uploading batch | .backing batch | .last batch => batch
  | _ => []

def Caller.hand : Caller Event → List Event
  | .putting event | .evicting event | .again event => [event]
  | _ => []

/-- The events that are not lost, in the order in which they arrive. -/
def World.account (world : World Event) : List Event :=
  world.uploaded.flatten ++ (world.thread.held ++ (world.queue ++ world.caller.hand))

structure Beside (world next : World Event) : Prop where
  caller : next.caller = world.caller
  submitted : next.submitted = world.submitted
  stopped : next.stopped = world.stopped
  drained : next.drained = world.drained
  queue : next.queue.length ≤ world.queue.length

variable {batchSize : Nat} {accepted late : Bool} {world : World Event}

theorem run_beside : Beside world (world.run batchSize accepted) := by
  unfold World.run
  split
  · split_ifs
    · exact ⟨rfl,rfl,rfl,rfl,Nat.le_refl _⟩
    · split <;> exact ⟨rfl,rfl,rfl,rfl,Nat.le_refl _⟩
  · split
    next => exact ⟨rfl,rfl,rfl,rfl,Nat.le_refl _⟩
    next more => exact ⟨rfl,rfl,rfl,rfl,by rw [more]; exact Nat.le_succ _⟩
  · split_ifs
    · exact ⟨rfl,rfl,rfl,rfl,by simp⟩
    · exact ⟨rfl,rfl,rfl,rfl,Nat.le_refl _⟩
  all_goals
    first
    | (split_ifs <;> exact ⟨rfl,rfl,rfl,rfl,Nat.le_refl _⟩)
    | exact ⟨rfl,rfl,rfl,rfl,Nat.le_refl _⟩

structure Counts (world next : World Event) : Prop where
  order : next.account.Sublist world.account
  count : next.account.length + next.dropped = world.account.length + world.dropped

theorem Counts.same {next : World Event} (account : next.account = world.account) (dropped : next.dropped = world.dropped) :
    Counts world next := ⟨account ▸ List.Sublist.refl _,by rw [account,dropped]⟩

theorem run_counts : Counts world (world.run batchSize accepted) := by
  unfold World.run
  split
  next pendingBatch at_ =>
    split_ifs with returns
    · refine .same ?_ rfl
      simp [World.account,Thread.held,at_,returns.2.1]
    · cases pendingBatch with
      | none => exact .same (by simp [World.account,Thread.held,at_]) rfl
      | some batch => exact .same (by simp [World.account,Thread.held,at_]) rfl
  next at_ =>
    split
    next none => exact .same (by simp [World.account,Thread.held,at_]) rfl
    next event queue more => exact .same (by simp [World.account,Thread.held,at_,more]) rfl
  next batch at_ =>
    split_ifs with room
    · refine .same ?_ rfl
      cases more : world.queue with
      | nil => exact absurd more room.2
      | cons event queue => simp [World.account,Thread.held,at_,more]
    · exact .same (by simp [World.account,Thread.held,at_]) rfl
  next at_ => split_ifs <;> exact .same (by simp [World.account,Thread.held,at_]) rfl
  next batch at_ => split_ifs <;> exact .same (by simp [World.account,Thread.held,at_]) rfl
  next batch at_ => split_ifs <;> exact .same (by simp [World.account,Thread.held,at_]) rfl
  next batch at_ =>
    split_ifs
    · exact .same (by simp [World.account,Thread.held,at_]) rfl
    · -- the last upload failed: its batch is dropped and counted
      constructor
      · simp [World.account,Thread.held,at_]
      · simp only [World.account,Thread.held,at_,List.length_append,List.length_nil]
        omega
  next => exact .same rfl rfl

theorem call_counts (room : ∀ event, world.caller = .again event → world.queue.length < maxQueueEvents) : Counts world (world.call late) := by
  unfold World.call
  split
  next => exact .same rfl rfl
  next event at_ => split_ifs <;> exact .same (by simp [World.account,Caller.hand,at_]) rfl
  next event at_ =>
    split_ifs
    · exact .same (by simp [World.account,Caller.hand,at_]) rfl
    · cases more : world.queue with
      | nil => contradiction
      | cons oldest queue =>
        constructor
        · simp [World.account,Caller.hand,at_,more]
        · simp only [World.account,Caller.hand,at_,more,List.length_append,List.length_cons,List.length_nil,List.tail_cons]
          omega
  next event at_ =>
    rw [if_pos (room event at_)]
    exact .same (by simp [World.account,Caller.hand,at_]) rfl
  next at_ => split_ifs <;> exact .same (by simp [World.account,Caller.hand,at_]) rfl
  next at_ => split_ifs <;> exact .same (by simp [World.account,Caller.hand,at_]) rfl
  next at_ => exact .same (by simp [World.account,Caller.hand,at_]) rfl
  next at_ => split_ifs <;> exact .same (by simp [World.account,Caller.hand,at_]) rfl

def Fits (batchSize : Nat) (batch : List Event) : Prop := batch ≠ [] ∧ batch.length ≤ batchSize

def Thread.Fits (batchSize : Nat) : Thread Event → Prop
  | .turn (some batch) => batch = [] ∨ CommandEvents.Fits batchSize batch
  | .filling batch | .uploading batch | .backing batch | .last batch => CommandEvents.Fits batchSize batch
  | _ => True

def Thread.idled : Thread Event → Bool
  | .turn (some []) => true
  | _ => false

/-- The thread returns where it meets the head of the loop with an empty batch. -/
def Busy (world : World Event) : Act Event → Prop
  | .run _ => world.thread.idled = true → world.stopped = true ∧ world.queue = []
  | _ => True

instance (world : World Event) : ∀ act, Decidable (Busy world act)
  | .run _ => inferInstanceAs (Decidable (_ → _))
  | .submit _ | .flush | .call _ => .isTrue trivial

structure Fitting (batchSize : Nat) (world : World Event) : Prop where
  thread : world.thread.Fits batchSize
  attempts : ∀ batch ∈ world.attempts, Fits batchSize batch

theorem Fitting.send {next : World Event} (fitting : Fitting batchSize world) {batch : List Event} (fits : Fits batchSize batch)
    (thread : next.thread.Fits batchSize) (attempts : next.attempts = world.attempts ++ [batch]) : Fitting batchSize next := by
  refine ⟨thread,fun other member => ?_⟩
  rw [attempts,List.mem_append,List.mem_singleton] at member
  rcases member with before | rfl
  · exact fitting.attempts other before
  · exact fits

theorem Fitting.run (fitting : Fitting batchSize world) (positive : 0 < batchSize) (busy : Busy world (.run accepted)) :
    Fitting batchSize (world.run batchSize accepted) := by
  have thread := fitting.thread
  unfold World.run
  split
  next pendingBatch at_ =>
    rw [at_] at thread
    split_ifs with returns
    · exact ⟨trivial,fitting.attempts⟩
    · cases pendingBatch with
      | none => exact ⟨trivial,fitting.attempts⟩
      | some batch =>
        rcases thread with rfl | fits
        · obtain ⟨stopped,empty⟩ := busy (at_ ▸ rfl)
          exact absurd ⟨stopped,rfl,empty⟩ returns
        · exact fitting.send fits fits rfl
  next at_ =>
    split
    · exact ⟨trivial,fitting.attempts⟩
    · exact ⟨⟨List.cons_ne_nil _ _,positive⟩,fitting.attempts⟩
  next batch at_ =>
    rw [at_] at thread
    split_ifs with room
    · refine ⟨⟨by simp [thread.1],?_⟩,fitting.attempts⟩
      cases more : world.queue with
      | nil => exact absurd more room.2
      | cons event queue =>
        simp only [List.head?_cons,Option.toList_some,List.length_append,List.length_cons,List.length_nil]
        omega
    · exact fitting.send thread thread rfl
  next at_ =>
    split_ifs
    · exact ⟨trivial,fitting.attempts⟩
    · exact ⟨.inl rfl,fitting.attempts⟩
  next batch at_ =>
    rw [at_] at thread
    split_ifs
    · exact ⟨trivial,fitting.attempts⟩
    · exact ⟨thread,fitting.attempts⟩
  next batch at_ =>
    rw [at_] at thread
    split_ifs
    · exact fitting.send thread thread rfl
    · exact ⟨.inr thread,fitting.attempts⟩
  next batch at_ => split_ifs <;> exact ⟨trivial,fitting.attempts⟩
  next => exact fitting

theorem call_beside : (world.call late).thread = world.thread ∧ (world.call late).attempts = world.attempts ∧
    (world.call late).submitted = world.submitted ∧ (world.call late).uploaded = world.uploaded := by
  unfold World.call
  split <;> (try split_ifs) <;> exact ⟨rfl,rfl,rfl,rfl⟩

structure Bounded (world : World Event) : Prop where
  queue : world.queue.length ≤ maxQueueEvents
  room : ∀ event, world.caller = .again event → world.queue.length < maxQueueEvents

theorem Bounded.call (bounded : Bounded world) : Bounded (world.call late) := by
  have queue := bounded.queue
  unfold World.call
  split
  next => exact bounded
  next event at_ =>
    split_ifs with room
    · exact ⟨by rw [List.length_append]; exact room,fun _ other => (nomatch other)⟩
    · exact ⟨queue,fun _ other => (nomatch other)⟩
  next event at_ =>
    split_ifs with none
    · exact ⟨queue,fun _ _ => none ▸ (by decide : 0 < maxQueueEvents)⟩
    · have shorter : world.queue.tail.length < world.queue.length := by
        have := List.length_pos_iff.mpr none
        rw [List.length_tail]
        omega
      exact ⟨Nat.le_of_lt (Nat.lt_of_lt_of_le shorter queue),fun _ _ => Nat.lt_of_lt_of_le shorter queue⟩
  next event at_ =>
    rw [if_pos (bounded.room event at_)]
    exact ⟨by rw [List.length_append]; exact bounded.room event at_,fun _ other => (nomatch other)⟩
  next at_ => split_ifs <;> first | exact bounded | exact ⟨queue,fun _ other => (nomatch other)⟩
  next at_ => split_ifs <;> first | exact bounded | exact ⟨queue,fun _ other => (nomatch other)⟩
  next => exact ⟨queue,fun _ other => (nomatch other)⟩
  next at_ => split_ifs <;> first | exact bounded | exact ⟨queue,fun _ other => (nomatch other)⟩

/-- The queue that `flush` saw empty stays so, and after it nothing is left. -/
structure Flushed (world : World Event) : Prop where
  empty : world.caller = .settling true ∨ world.caller = .stopping true ∨ world.caller = .joining true → world.queue = []
  stopped : ∀ drained, world.caller = .joining drained → world.stopped = true
  drained : world.drained = true → world.queue = [] ∧ world.thread.over = true ∧ world.stopped = true ∧ world.caller.hand = []

theorem run_over (past : world.thread.over = true) : world.run batchSize accepted = world := by
  unfold World.run
  cases at_ : world.thread <;> simp_all [Thread.over]

section
variable (flushed : Flushed world)
include flushed

theorem Flushed.run : Flushed (world.run batchSize accepted) := by
  have beside := @run_beside _ batchSize accepted world
  have empties : world.queue = [] → (world.run batchSize accepted).queue = [] := fun none => by
    have shorter := beside.queue
    rw [none] at shorter
    exact List.length_eq_zero_iff.mp (Nat.le_zero.mp shorter)
  constructor
  · rw [beside.caller]
    exact fun waits => empties (flushed.empty waits)
  · rw [beside.caller,beside.stopped]
    exact flushed.stopped
  · rw [beside.caller,beside.stopped,beside.drained]
    intro drained
    obtain ⟨none,past,rest⟩ := flushed.drained drained
    rw [run_over past]
    exact ⟨none,past,rest⟩

theorem Flushed.left {caller : Caller Event} (free : caller.hand = []) (was : world.drained = true) :
    world.queue = [] ∧ world.thread.over = true ∧ world.stopped = true ∧ caller.hand = [] := by
  obtain ⟨none,past,stopped,_⟩ := flushed.drained was
  exact ⟨none,past,stopped,free⟩

theorem Flushed.fresh (holds : world.caller.hand ≠ []) : world.drained ≠ true :=
  fun drained => holds (flushed.drained drained).2.2.2

theorem Flushed.call : Flushed (world.call late) := by
  unfold World.call
  split
  next => exact flushed
  next event at_ =>
    have fresh := flushed.fresh (by simp [at_,Caller.hand])
    split_ifs <;> exact ⟨by simp,by simp,fun drained => absurd drained fresh⟩
  next event at_ =>
    have fresh := flushed.fresh (by simp [at_,Caller.hand])
    split_ifs <;> exact ⟨by simp,by simp,fun drained => absurd drained fresh⟩
  next event at_ =>
    have fresh := flushed.fresh (by simp [at_,Caller.hand])
    split_ifs <;> exact ⟨by simp,by simp,fun drained => absurd drained fresh⟩
  next at_ =>
    split_ifs with none
    · exact ⟨fun _ => none,by simp,flushed.left rfl⟩
    · exact ⟨by simp,by simp,flushed.left rfl⟩
    · exact flushed
  next empty at_ =>
    split_ifs
    · refine ⟨fun waits => flushed.empty (.inl ?_),by simp,flushed.left rfl⟩
      simpa [at_] using waits
    · exact ⟨by simp,by simp,flushed.left rfl⟩
    · exact flushed
  next kept at_ =>
    refine ⟨fun waits => flushed.empty (.inr (.inl ?_)),fun _ _ => rfl,fun was => ?_⟩
    · simpa [at_] using waits
    · obtain ⟨none,past,_⟩ := flushed.drained was
      exact ⟨none,past,rfl,rfl⟩
  next kept at_ =>
    split_ifs with past
    · refine ⟨by simp,by simp,fun was => ?_⟩
      rcases Bool.or_eq_true_iff.mp was with before | now
      · exact flushed.left rfl before
      · exact ⟨flushed.empty (.inr (.inr (now ▸ at_))),past,flushed.stopped kept at_,rfl⟩
    · exact ⟨by simp,by simp,flushed.left rfl⟩
    · exact flushed

end

structure Sound (batchSize : Nat) (world : World Event) : Prop where
  order : world.account.Sublist world.submitted
  count : world.account.length + world.dropped = world.submitted.length
  fitting : Fitting batchSize world
  bounded : Bounded world
  flushed : Flushed world

theorem Sound.counts (sound : Sound batchSize world) {next : World Event} (counts : Counts world next)
    (submitted : next.submitted = world.submitted) (fitting : Fitting batchSize next) (bounded : Bounded next) (flushed : Flushed next) :
    Sound batchSize next :=
  ⟨submitted ▸ counts.order.trans sound.order,by rw [counts.count,sound.count,submitted],fitting,bounded,flushed⟩

theorem Caller.hand_free {caller : Caller Event} (free : caller.isFree = true) : caller.hand = [] := by
  cases caller <;> first | rfl | cases free

theorem Sound.submit (sound : Sound batchSize world) (free : world.caller.isFree = true) (event : Event) :
    Sound batchSize (world.submit event) := by
  obtain ⟨order,count,fitting,bounded,flushed⟩ := sound
  unfold World.submit
  split_ifs with stopped
  · refine ⟨order.trans (List.sublist_append_left ..),?_,⟨fitting.thread,fitting.attempts⟩,⟨bounded.queue,bounded.room⟩,
      ⟨flushed.empty,flushed.stopped,flushed.drained⟩⟩
    show world.account.length + (world.dropped + 1) = (world.submitted ++ [event]).length
    rw [List.length_append,← count,Nat.add_assoc]
    rfl
  · have grown : ({world with submitted := world.submitted ++ [event], caller := .putting event} : World Event).account =
        world.account ++ [event] := by
      unfold World.account
      rw [Caller.hand_free free]
      simp [Caller.hand]
    refine ⟨grown ▸ order.append (List.Sublist.refl _),?_,⟨fitting.thread,fitting.attempts⟩,⟨bounded.queue,by simp⟩,
      ⟨by simp,by simp,fun drained => absurd (flushed.drained drained).2.2.1 stopped⟩⟩
    rw [grown]
    show (world.account ++ [event]).length + world.dropped = (world.submitted ++ [event]).length
    rw [List.length_append,List.length_append,← count]
    omega

theorem Sound.flush (sound : Sound batchSize world) (free : world.caller.isFree = true) :
    Sound batchSize {world with caller := .draining} := by
  refine sound.counts (.same ?_ rfl) rfl ⟨sound.fitting.thread,sound.fitting.attempts⟩ ⟨sound.bounded.queue,by simp⟩
    ⟨by simp,by simp,sound.flushed.left rfl⟩
  unfold World.account
  rw [Caller.hand_free free]
  rfl

theorem Sound.apply (sound : Sound batchSize world) (positive : 0 < batchSize) {act : Act Event} (busy : Busy world act) :
    Sound batchSize (apply batchSize act world) := by
  cases act with
  | submit event =>
    unfold CommandEvents.apply
    dsimp only
    split_ifs with free
    · exact sound.submit free event
    · exact sound
  | flush =>
    unfold CommandEvents.apply
    dsimp only
    split_ifs with free
    · exact sound.flush free
    · exact sound
  | call late =>
    obtain ⟨thread,attempts,submitted,_⟩ := @call_beside _ late world
    refine sound.counts (call_counts sound.bounded.room) submitted ⟨?_,?_⟩ sound.bounded.call sound.flushed.call
    · exact (congrArg (Thread.Fits batchSize) thread).mpr sound.fitting.thread
    · exact fun batch member => sound.fitting.attempts batch (attempts ▸ member)
  | run accepted =>
    have beside := @run_beside _ batchSize accepted world
    refine sound.counts run_counts beside.submitted (sound.fitting.run positive busy) ⟨?_,?_⟩ sound.flushed.run
    · exact Nat.le_trans beside.queue sound.bounded.queue
    · intro event at_
      exact Nat.lt_of_le_of_lt beside.queue (sound.bounded.room event (beside.caller ▸ at_))

/-- As long as every idle collect is followed by the end of the thread, all batches that are sent have between one event and
`batchSize` of them, what arrives is in order, and after a `flush` that drained only counted events are missing. -/
theorem uploads_in_order (batchSize : Nat) (positive : 0 < batchSize) (world : World Event)
    (reached : Reached (apply batchSize) Busy {} world) :
    (∀ batch ∈ world.attempts, batch ≠ [] ∧ batch.length ≤ batchSize) ∧ world.uploaded.flatten.Sublist world.submitted ∧
      (world.drained = true → world.uploaded.flatten.length + world.dropped = world.submitted.length) := by
  have start : Sound batchSize ({} : World Event) :=
    ⟨List.Sublist.refl _,rfl,⟨trivial,by simp⟩,⟨Nat.zero_le _,by simp⟩,⟨by simp,by simp,by simp⟩⟩
  have sound := reached.invariant (Sound batchSize) start fun _ _ sound busy => sound.apply positive busy
  refine ⟨sound.fitting.attempts,(List.sublist_append_left ..).trans sound.order,fun drained => ?_⟩
  obtain ⟨none,past,_,free⟩ := sound.flushed.drained drained
  have rest : world.thread.held = [] := by
    cases at_ : world.thread <;> simp_all [Thread.over,Thread.held]
  have count := sound.count
  rw [World.account,rest,none,free] at count
  simpa using count

/-- Each event submitted is on its way, in order, or counted as dropped. -/
structure Accounted (world : World Event) : Prop where
  order : world.account.Sublist world.submitted
  count : world.account.length + world.dropped = world.submitted.length
  bounded : Bounded world

theorem Accounted.apply (accounted : Accounted world) (batchSize : Nat) (act : Act Event) : Accounted (apply batchSize act world) := by
  obtain ⟨order,count,bounded⟩ := accounted
  have free : world.caller.isFree = true → world.account = world.uploaded.flatten ++ (world.thread.held ++ world.queue) := by
    intro free
    rw [World.account,Caller.hand_free free,List.append_nil]
  cases act with
  | submit event =>
    unfold CommandEvents.apply World.submit
    dsimp only
    split_ifs with idle stopped
    · exact ⟨order.trans (List.sublist_append_left ..),by simp [World.account] at count ⊢; omega,bounded.queue,bounded.room⟩
    · rw [free idle] at order count
      refine ⟨?_,?_,bounded.queue,by simp⟩
      · simpa [World.account,Caller.hand] using order.append (List.Sublist.refl [event])
      · simp [World.account,Caller.hand] at count ⊢
        omega
    · exact ⟨order,count,bounded⟩
  | flush =>
    unfold CommandEvents.apply
    dsimp only
    split_ifs with idle
    · rw [free idle] at order count
      exact ⟨by simpa [World.account,Caller.hand] using order,by simpa [World.account,Caller.hand] using count,bounded.queue,by simp⟩
    · exact ⟨order,count,bounded⟩
  | call late =>
    have counts := @call_counts _ late _ bounded.room
    obtain ⟨_,_,submitted,_⟩ := @call_beside _ late world
    exact ⟨submitted ▸ counts.order.trans order,submitted ▸ counts.count.trans count,bounded.call⟩
  | run accepted =>
    have counts := @run_counts _ batchSize accepted world
    have beside := @run_beside _ batchSize accepted world
    refine ⟨beside.submitted ▸ counts.order.trans order,beside.submitted ▸ counts.count.trans count,Nat.le_trans beside.queue bounded.queue,?_⟩
    exact fun event at_ => Nat.lt_of_le_of_lt beside.queue (bounded.room event (beside.caller ▸ at_))

theorem events_accounted (batchSize : Nat) (acts : List (Act Event)) : Accounted (exec (apply batchSize) {} acts) :=
  @exec_invariant _ _ (apply batchSize) Accounted (fun _ act accounted => accounted.apply batchSize act) {}
    ⟨List.Sublist.refl _,rfl,Nat.zero_le _,by simp⟩ acts

def steadyRun : List (Act Nat) :=
  [.submit 7,.call false,.run true,.run true,.run true,.run false,.run true,.run true,.run true,.flush,.call false,.call false,.call false,
    .run true,.call false]

theorem steady_uploaded : let world := exec (apply 50) {} steadyRun
    (∀ batch ∈ world.attempts, batch ≠ [] ∧ batch.length ≤ 50) ∧ world.uploaded.flatten.Sublist world.submitted ∧
      (world.drained = true → world.uploaded.flatten.length + world.dropped = world.submitted.length) :=
  uploads_in_order 50 (by decide) _ (Reached.start.along steadyRun (by decide +kernel))

example : (exec (apply 50) ({} : World Nat) steadyRun).uploaded = [[7]] ∧ (exec (apply 50) ({} : World Nat) steadyRun).drained = true := by
  decide +kernel

def idleRun : List (Act Nat) :=
  [.run true,.run true,.run true,.run true,.submit 7,.call false,.run true,.run true,.run true,.flush,.call true,.call true,.call true,
    .run true,.run true,.call false]

theorem idle_batch_rejected : ¬∀ world : World Nat, Reached (apply 50) (fun _ _ => True) {} world →
    (∀ batch ∈ world.attempts, batch ≠ [] ∧ batch.length ≤ 50) ∧ world.uploaded.flatten.Sublist world.submitted ∧
      (world.drained = true → world.uploaded.flatten.length + world.dropped = world.submitted.length) := by
  intro all
  have reached := (Reached.start : Reached (apply 50) (fun _ _ => True) ({} : World Nat) {}).along idleRun (Along.all (fun _ _ => trivial) _ _)
  have tried := (all _ reached).1
  exact absurd (tried [] (by decide +kernel)).1 (by simp)

end GmsRemoteTest.WorkerAgent.CommandEvents
