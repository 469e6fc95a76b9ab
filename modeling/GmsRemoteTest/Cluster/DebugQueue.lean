import GmsRemoteTest.Lib.Runs
import GmsRemoteTest.Cluster.AoaOperations

/-! Single-step inputs of an AOA debug session reach its one reader. Every call on the
receipt runs in its own transaction, so any interleaving of the callers and the reader is a
list of calls. -/
namespace GmsRemoteTest.Cluster

/-- `accepted` lists the distinct answers of the session in the order they were given,
`received` what the reader was handed, and `finished` says that its close succeeded. -/
structure DebugWorld where
  db : Db
  accepted : List DebugEntry
  received : List DebugEntry := []
  finished : Bool := false

/-- The reader of `debug_command_source` asks with the last sequence it was handed. -/
def DebugWorld.cursor (world : DebugWorld) : Nat := (world.received.getLast?.map (·.sequence)).getD 0

inductive DebugCall
  | enqueue (commandId ownerId requestId text : String) (now : Nat)
  | read (close : Bool)
  | control (workerId controlId ownerId : String) (action : PlaybackAction) (now : Nat)
  | settle (commandId : String) (status : CommandStatus) (now : Nat)

def noteAnswer (accepted : List DebugEntry) (entry : DebugEntry) : List DebugEntry :=
  if entry ∈ accepted then accepted else accepted++[entry]

def debugStep (session : String) (call : DebugCall) (world : DebugWorld) : DebugWorld :=
  match call with
  | .enqueue commandId ownerId requestId text now =>
    match enqueueAoaDebugCommand world.db commandId ownerId requestId text now with
    | (.error _,db) => {world with db := db}
    | (.ok sequence,db) =>
      let accepted := if commandId = session then noteAnswer world.accepted ⟨sequence,requestId,text⟩ else world.accepted
      {world with db := db, accepted := accepted}
  | .read close =>
    match readAoaDebugCommand world.db session world.cursor close with
    | (.error _,db) => {world with db := db}
    | (.ok (some entry),db) => {world with db := db, received := world.received++[entry]}
    | (.ok none,db) => {world with db := db, finished := world.finished || close}
  | .control workerId controlId ownerId action now =>
    {world with db := (requestAoaPlaybackControl world.db workerId controlId ownerId action now).2}
  | .settle commandId status now => {world with db := settleCommand world.db commandId status now}

def DebugReceipt (session owner : String) (queue : List DebugEntry) (closed : Bool) (db : Db) : Prop :=
  ∃ row, findCommand db session = some row ∧ row.payload.aoaDebugSessionId ≠ "" ∧ row.payload.ownerId = owner ∧
    row.payload.aoaDebugQueue = queue ∧ row.payload.aoaDebugClosed = closed

/-- A session as it is created: open, with at most the input that created it. -/
structure Opened (session owner : String) (queue : List DebugEntry) (db : Db) : Prop where
  distinct : (db.commands.map (·.id)).Nodup
  receipt : DebugReceipt session owner queue false db
  first : queue = [] ∨ ∃ requestId text, queue = [⟨1,requestId,text⟩]

structure Orderly (session owner : String) (world : DebugWorld) : Prop where
  distinct : (world.db.commands.map (·.id)).Nodup
  receipt : DebugReceipt session owner world.accepted world.finished world.db
  numbered : world.accepted.map (·.sequence) = List.range' 1 world.accepted.length
  named : (world.accepted.map (·.requestId)).Nodup
  inOrder : world.received <+: world.accepted
  drained : world.finished = true → world.received = world.accepted

section
variable {session owner : String} {queue : List DebugEntry} {closed : Bool} {db : Db}

section
variable (receipt : DebugReceipt session owner queue closed db)
include receipt

theorem DebugReceipt.update {id : String} {set : Command → Command}
    (kept : ∀ row, (set row).id = row.id)
    (same : ∀ row, findCommand db id = some row → (set row).payload.aoaDebugSessionId = row.payload.aoaDebugSessionId ∧
      (set row).payload.ownerId = row.payload.ownerId ∧ (set row).payload.aoaDebugQueue = row.payload.aoaDebugQueue ∧
      (set row).payload.aoaDebugClosed = row.payload.aoaDebugClosed) :
    DebugReceipt session owner queue closed (updateCommand db id set) := by
  obtain ⟨row,found,named,owned,queued,open_⟩ := receipt
  by_cases own : session = id
  · subst own
    obtain ⟨sameId,sameOwner,sameQueue,sameClosed⟩ := same row found
    exact ⟨set row,updateCommand_self kept found,sameId ▸ named,sameOwner.trans owned,sameQueue.trans queued,
      sameClosed.trans open_⟩
  · exact ⟨row,(updateCommand_other kept own).trans found,named,owned,queued,open_⟩

theorem DebugReceipt.settle (id : String) (status : CommandStatus) (now : Nat) :
    DebugReceipt session owner queue closed (settleCommand db id status now) :=
  receipt.update (fun _ => rfl) fun _ _ => ⟨rfl,rfl,rfl,rfl⟩

theorem DebugReceipt.control (distinct : (db.commands.map (·.id)).Nodup)
    (workerId controlId ownerId : String) (action : PlaybackAction) (now : Nat) :
    DebugReceipt session owner queue closed (requestAoaPlaybackControl db workerId controlId ownerId action now).2 := by
  unfold requestAoaPlaybackControl
  cases found : controlledCommand db workerId controlId ownerId with
  | none => exact receipt
  | some row =>
    have stored := (findCommand_controlled distinct found).1
    refine receipt.update ?_ ?_
    · intro other
      rfl
    · intro other present
      have same : other = row := Option.some.inj (present.symm.trans stored)
      subst same
      exact ⟨rfl,rfl,rfl,rfl⟩

end

theorem control_ids (workerId controlId ownerId : String) (action : PlaybackAction) (now : Nat) :
    (requestAoaPlaybackControl db workerId controlId ownerId action now).2.commands.map (·.id) =
      db.commands.map (·.id) := by
  unfold requestAoaPlaybackControl
  cases controlledCommand db workerId controlId ownerId with
  | none => rfl
  | some row => exact writePayload_ids _ now

end

/-- What a call of `enqueue_aoa_debug_command` can do. -/
inductive Enqueued (db : Db) (commandId ownerId requestId text : String) (now : Nat) : Except ClusterError Nat × Db → Prop
  | refused (error : ClusterError) : Enqueued db commandId ownerId requestId text now (.error error,db)
  | again (row : Command) (entry : DebugEntry) (found : findCommand db commandId = some row)
      (member : entry ∈ row.payload.aoaDebugQueue) (named : entry.requestId = requestId) (same : entry.command = text) :
      Enqueued db commandId ownerId requestId text now (.ok entry.sequence,db)
  | added (row : Command) (found : findCommand db commandId = some row) (takes : row.takesInput)
      (fresh : ∀ entry ∈ row.payload.aoaDebugQueue, entry.requestId ≠ requestId) :
      Enqueued db commandId ownerId requestId text now (.ok (row.payload.aoaDebugQueue.length+1),
        writePayload db row.id {row.payload with
          aoaDebugQueue := row.payload.aoaDebugQueue++[⟨row.payload.aoaDebugQueue.length+1,requestId,text⟩]} now)

theorem enqueueAoaDebugCommand_enqueued (db : Db) (commandId ownerId requestId text : String) (now : Nat) :
    Enqueued db commandId ownerId requestId text now (enqueueAoaDebugCommand db commandId ownerId requestId text now) := by
  unfold enqueueAoaDebugCommand
  cases found : findCommand db commandId with
  | none => exact .refused _
  | some row =>
    dsimp only
    split
    · exact .refused _
    · cases held : row.payload.aoaDebugQueue.find? fun entry => entry.requestId = requestId with
      | some entry =>
        dsimp only
        have named : entry.requestId = requestId := by simpa using List.find?_some held
        split
        · exact .refused _
        · rename_i same
          exact .again row entry found (List.mem_of_find?_eq_some held) named (by simpa using same)
      | none =>
        dsimp only [appendAoaDebugCommand]
        split
        · exact .refused _
        · rename_i takes
          split
          · exact .refused _
          · exact .added row found (by simpa using takes) (by simpa using held)

section
variable {session owner : String} {world : DebugWorld}

theorem Orderly.enqueue (orderly : Orderly session owner world) (commandId ownerId requestId text : String) (now : Nat) :
    Orderly session owner (debugStep session (.enqueue commandId ownerId requestId text now) world) := by
  have effect := enqueueAoaDebugCommand_enqueued world.db commandId ownerId requestId text now
  dsimp only [debugStep]
  generalize enqueueAoaDebugCommand world.db commandId ownerId requestId text now = outcome at effect
  obtain ⟨row,found,named,owned,queued,closed⟩ := orderly.receipt
  cases effect with
  | refused error => exact orderly
  | again held entry present member own same =>
    by_cases here : commandId = session
    · subst here
      have row_eq : held = row := Option.some.inj (present.symm.trans found)
      subst row_eq
      have known : (⟨entry.sequence,requestId,text⟩ : DebugEntry) ∈ world.accepted := by
        rw [← own,← same,← queued]
        exact member
      simpa [noteAnswer,known] using orderly
    · simpa [here] using orderly
  | added held present takes fresh =>
    have identity := findCommand_id present
    by_cases here : commandId = session
    · subst here
      have row_eq : held = row := Option.some.inj (present.symm.trans found)
      subst row_eq
      rw [queued] at fresh
      have going : world.finished = false := closed ▸ takes.2.1
      have absent : (⟨world.accepted.length+1,requestId,text⟩ : DebugEntry) ∉ world.accepted :=
        fun member => fresh _ member rfl
      simp only [if_true,queued,noteAnswer,absent,if_false]
      refine ⟨?_,?_,?_,?_,?_,?_⟩
      · exact (writePayload_ids _ now).symm ▸ orderly.distinct
      · rw [identity]
        exact ⟨_,writePayload_self found _ now,named,owned,rfl,closed⟩
      · simp [orderly.numbered,List.range'_concat]
        omega
      · simp only [List.map_append,List.map_cons,List.map_nil,List.nodup_append,orderly.named]
        simpa using fresh
      · exact orderly.inOrder.trans (List.prefix_append _ _)
      · simp [going]
    · have elsewhere : session ≠ held.id := fun same => here (identity.symm.trans same.symm)
      simp only [here,if_false]
      refine ⟨?_,⟨row,?_,named,owned,queued,closed⟩,orderly.numbered,orderly.named,orderly.inOrder,orderly.drained⟩
      · exact (writePayload_ids _ now).symm ▸ orderly.distinct
      · exact (writePayload_other elsewhere _ now).trans found

theorem find_past {queue : List DebugEntry} {first : Nat} (numbered : queue.map (·.sequence) = List.range' (first+1) queue.length)
    (n : Nat) : queue.find? (fun entry => first+n < entry.sequence) = queue[n]? := by
  induction queue generalizing first n with
  | nil => rfl
  | cons entry queue ih =>
    simp only [List.map_cons,List.length_cons,List.range'_succ,List.cons.injEq] at numbered
    obtain ⟨head,rest⟩ := numbered
    cases n with
    | zero => simp [head]
    | succ n =>
      have skipped : ¬ first+(n+1) < entry.sequence := by omega
      have later := ih rest n
      rw [show first+1+n = first+(n+1) by omega] at later
      simpa [List.find?_cons,skipped] using later

section
variable (orderly : Orderly session owner world)
include orderly

theorem Orderly.cursor_eq : world.cursor = world.received.length := by
  obtain ⟨rest,split⟩ := orderly.inOrder
  have numbered := orderly.numbered
  rw [← split,List.map_append,List.length_append,List.range'_append_1.symm] at numbered
  have own : world.received.map (·.sequence) = List.range' 1 world.received.length :=
    (List.append_inj numbered (by simp)).1
  simp only [DebugWorld.cursor,← List.getLast?_map,own,List.getLast?_range']
  split
  · rename_i empty
    simp [empty]
  · simp

theorem Orderly.find_next :
    world.accepted.find? (fun entry => world.cursor < entry.sequence) = world.accepted[world.received.length]? := by
  have past := find_past orderly.numbered world.received.length
  simpa [orderly.cursor_eq] using past

theorem Orderly.read_eq (close : Bool) :
    ∃ row, findCommand world.db session = some row ∧ readAoaDebugCommand world.db session world.cursor close =
      match world.accepted[world.received.length]? with
      | some entry => (.ok (some entry),world.db)
      | none => if close then (.ok none,setPayload world.db session {row.payload with aoaDebugClosed := true})
        else (.ok none,world.db) := by
  obtain ⟨row,found,_,_,queued,_⟩ := orderly.receipt
  refine ⟨row,found,?_⟩
  cases next : world.accepted[world.received.length]? with
  | none => simp only [readAoaDebugCommand,found,queued,orderly.find_next,next]
  | some entry => simp only [readAoaDebugCommand,found,queued,orderly.find_next,next]

theorem Orderly.all_received (none_left : world.accepted[world.received.length]? = none) :
    world.received = world.accepted := by
  have short : world.accepted.length ≤ world.received.length := by simpa using none_left
  exact orderly.inOrder.eq_of_length (Nat.le_antisymm orderly.inOrder.length_le short)

theorem Orderly.read (close : Bool) :
    Orderly session owner (debugStep session (.read close) world) := by
  obtain ⟨row,found,outcome⟩ := orderly.read_eq close
  dsimp only [debugStep]
  rw [outcome]
  cases next : world.accepted[world.received.length]? with
  | some entry =>
    obtain ⟨rest,split⟩ := orderly.inOrder
    have follows : rest = entry :: rest.tail := by
      rw [← split] at next
      cases rest with
      | nil => simp at next
      | cons first rest => simpa using next
    refine ⟨orderly.distinct,orderly.receipt,orderly.numbered,orderly.named,⟨rest.tail,?_⟩,?_⟩
    · calc (world.received++[entry])++rest.tail = world.received++(entry::rest.tail) := by simp
        _ = world.received++rest := by rw [← follows]
        _ = world.accepted := split
    · intro finished
      have all := orderly.drained finished
      rw [all] at next
      simp at next
  | none =>
    have all := orderly.all_received next
    cases close with
    | false => simpa using orderly
    | true =>
      obtain ⟨held,present,named,owned,queued,_⟩ := orderly.receipt
      have same : held = row := Option.some.inj (present.symm.trans found)
      subst same
      refine ⟨?_,⟨{held with payload := {held.payload with aoaDebugClosed := true}},?_,named,owned,queued,?_⟩,
        orderly.numbered,orderly.named,orderly.inOrder,fun _ => all⟩
      · have ids : (setPayload world.db session {held.payload with aoaDebugClosed := true}).commands.map (·.id) =
            world.db.commands.map (·.id) := by
          apply updateCommand_ids
          intro row
          rfl
        exact ids.symm ▸ orderly.distinct
      · apply updateCommand_self _ found
        intro row
        rfl
      · simp

theorem Orderly.step (call : DebugCall) :
    Orderly session owner (debugStep session call world) := by
  cases call with
  | enqueue commandId ownerId requestId text now => exact orderly.enqueue commandId ownerId requestId text now
  | read close => exact orderly.read close
  | control workerId controlId ownerId action now =>
    refine ⟨?_,orderly.receipt.control orderly.distinct workerId controlId ownerId action now,orderly.numbered,
      orderly.named,orderly.inOrder,orderly.drained⟩
    exact (control_ids workerId controlId ownerId action now).symm ▸ orderly.distinct
  | settle commandId status now =>
    refine ⟨?_,orderly.receipt.settle commandId status now,orderly.numbered,orderly.named,orderly.inOrder,orderly.drained⟩
    have ids : (settleCommand world.db commandId status now).commands.map (·.id) = world.db.commands.map (·.id) := by
      apply updateCommand_ids
      intro row
      rfl
    exact ids.symm ▸ orderly.distinct

end

theorem Opened.orderly {db : Db} {queue : List DebugEntry} (opened : Opened session owner queue db) :
    Orderly session owner {db := db, accepted := queue} := by
  refine ⟨opened.distinct,opened.receipt,?_,?_,List.nil_prefix,fun finished => nomatch finished⟩
  · rcases opened.first with empty | ⟨requestId,text,single⟩
    · simp [empty]
    · simp [single]
  · rcases opened.first with empty | ⟨requestId,text,single⟩
    · simp [empty]
    · simp [single]

section
variable (orderly : Orderly session owner world) {entry : DebugEntry} (member : entry ∈ world.accepted)
include orderly member

theorem Orderly.retry (now : Nat) :
    enqueueAoaDebugCommand world.db session owner entry.requestId entry.command now = (.ok entry.sequence,world.db) := by
  obtain ⟨row,found,named,owned,queued,_⟩ := orderly.receipt
  have held : world.accepted.find? (fun other => other.requestId = entry.requestId) = some entry := by
    obtain ⟨other,first⟩ := Table.fetch_isSome (fun other : DebugEntry => other.requestId = entry.requestId) member rfl
    have same : entry = other := Table.eq_of_fetch orderly.named first member rfl
    exact same ▸ first
  simp [enqueueAoaDebugCommand,found,named,owned,queued,held]

theorem Orderly.retry_writes_nothing (ownerId text : String) (now : Nat) :
    (enqueueAoaDebugCommand world.db session ownerId entry.requestId text now).2 = world.db := by
  obtain ⟨row,found,_,_,queued,_⟩ := orderly.receipt
  have effect := enqueueAoaDebugCommand_enqueued world.db session ownerId entry.requestId text now
  generalize enqueueAoaDebugCommand world.db session ownerId entry.requestId text now = outcome at effect ⊢
  cases effect with
  | refused error => rfl
  | again held other present inside named same => rfl
  | added held present takes fresh =>
    have row_eq : held = row := Option.some.inj (present.symm.trans found)
    subst row_eq
    exact absurd rfl (fresh entry (queued ▸ member))

end

theorem debugStep_finished (finished : world.finished = true) (call : DebugCall) :
    (debugStep session call world).finished = true := by
  cases call with
  | enqueue commandId ownerId requestId text now =>
    dsimp only [debugStep]
    split <;> exact finished
  | read close =>
    dsimp only [debugStep]
    split <;> simp [finished]
  | control workerId controlId ownerId action now => exact finished
  | settle commandId status now => exact finished

theorem debugStep_accepted_or_received (call : DebugCall) :
    (debugStep session call world).accepted = world.accepted ∨ (debugStep session call world).received = world.received := by
  cases call with
  | enqueue commandId ownerId requestId text now =>
    right
    dsimp only [debugStep]
    split <;> rfl
  | read close =>
    left
    dsimp only [debugStep]
    split <;> rfl
  | control workerId controlId ownerId action now => exact .inl rfl
  | settle commandId status now => exact .inl rfl

section
variable (orderly : Orderly session owner world) (finished : world.finished = true)
include orderly finished

theorem Orderly.finished_step (call : DebugCall) :
    (debugStep session call world).accepted = world.accepted := by
  rcases @debugStep_accepted_or_received session world call with same | same
  · exact same
  · calc (debugStep session call world).accepted = (debugStep session call world).received :=
          ((orderly.step call).drained (debugStep_finished finished call)).symm
      _ = world.received := same
      _ = world.accepted := orderly.drained finished

theorem Orderly.finished_run (later : List DebugCall) : (Runs.exec (debugStep session) world later).accepted = world.accepted := by
  induction later generalizing world with
  | nil => rfl
  | cons call later ih =>
    exact (ih (orderly.step call) (debugStep_finished finished call)).trans (orderly.finished_step finished call)

end

end

/-- Whatever the callers of a session do around its reader, the accepted inputs are numbered from one without a gap, a retry
answers the number of its request, the reader is always handed the next one, and a close that succeeds has handed over all and
lets no other in. -/
theorem debug_input_is_delivered_once (session owner : String) (queue : List DebugEntry) (db : Db)
    (opened : Opened session owner queue db) (calls : List DebugCall) (world : DebugWorld)
    (run : world = Runs.exec (debugStep session) {db := db, accepted := queue} calls) :
    world.accepted.map (·.sequence) = List.range' 1 world.accepted.length ∧
    (∀ entry ∈ world.accepted, ∀ now,
      enqueueAoaDebugCommand world.db session owner entry.requestId entry.command now = (.ok entry.sequence,world.db)) ∧
    (∀ entry ∈ world.accepted, ∀ ownerId text now,
      (enqueueAoaDebugCommand world.db session ownerId entry.requestId text now).2 = world.db) ∧
    world.received <+: world.accepted ∧
    (∀ close entry, world.accepted[world.received.length]? = some entry →
      readAoaDebugCommand world.db session world.cursor close = (.ok (some entry),world.db)) ∧
    (world.finished = true → world.received = world.accepted ∧
      ∀ later, (Runs.exec (debugStep session) world later).accepted = world.accepted) := by
  have orderly : Orderly session owner world := by
    rw [run]
    exact Runs.exec_invariant (fun world call orderly => orderly.step call) opened.orderly calls
  refine ⟨orderly.numbered,?_,?_,orderly.inOrder,?_,?_⟩
  · intro entry member now
    exact orderly.retry member now
  · intro entry member ownerId text now
    exact orderly.retry_writes_nothing member ownerId text now
  · intro close entry next
    obtain ⟨row,_,outcome⟩ := orderly.read_eq close
    rw [outcome,next]
  · intro finished
    exact ⟨orderly.drained finished,fun later => orderly.finished_run finished later⟩

def debugReceipt : Command :=
  { id := "cmd-1", workerId := "w1", commandType := .deviceAction, jobId := "", attemptId := "", operationId := "aoa-debug:dbg"
    traceId := "trace-1", status := .running, createdAt := 0, updatedAt := 0
    payload := { ownerId := "alice", playbackControlId := "dbg", action := .aoaSequence, aoaDebugSessionId := "dbg"
                 aoaDebugQueue := [⟨1,"first","click 180 525"⟩] } }

def debugCalls : List DebugCall :=
  [.read false, .enqueue "cmd-1" "alice" "second" "back" 1, .enqueue "cmd-1" "bob" "third" "back" 2,
    .enqueue "cmd-1" "alice" "second" "back" 3, .read true, .read true, .enqueue "cmd-1" "alice" "fourth" "home" 4]

theorem debugReceipt_opened : Opened "cmd-1" "alice" debugReceipt.payload.aoaDebugQueue {commands := [debugReceipt]} :=
  ⟨by decide,⟨debugReceipt,by decide,by decide,rfl,rfl,rfl⟩,.inr ⟨_,_,rfl⟩⟩

theorem debug_input_is_delivered_once_closed :
    let world := Runs.exec (debugStep "cmd-1") {db := {commands := [debugReceipt]}, accepted := debugReceipt.payload.aoaDebugQueue} debugCalls
    world.finished = true ∧ world.accepted.map (·.requestId) = ["first","second"] ∧ world.received = world.accepted := by
  intro world
  obtain ⟨_,_,_,_,_,closing⟩ := debug_input_is_delivered_once "cmd-1" "alice" _ _ debugReceipt_opened debugCalls world rfl
  have finished : world.finished = true := by decide +kernel
  exact ⟨finished,by decide +kernel,(closing finished).1⟩

end GmsRemoteTest.Cluster
