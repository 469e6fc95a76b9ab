import GmsRemoteTest.Lib.Runs
import GmsRemoteTest.Cluster.AoaOperations
import GmsRemoteTest.WorkerAgent.AoaControl

/-! One running AOA playback between the Controller, which numbers the requests of the user
in the receipt, and the Worker, which the resulting messages reach in any order, more than
once or not at all. -/
namespace GmsRemoteTest.WorkerAgent
open Cluster

/-- One running sequence: the receipt in the Controller, the requests made for it, the messages they turned into and those that
reached the Worker, and its registry. -/
structure Playback where
  db : Db
  asked : List PlaybackAction := []
  sent : List ControlMessage := []
  delivered : List ControlMessage := []
  controls : List PlaybackControl := []

inductive PlaybackStep
  | ask (workerId controlId ownerId : String) (action : PlaybackAction) (now : Nat)
  | deliver (message : ControlMessage) (now : Nat)
  | refresh (now : Nat)
  | register (controlId : String) (now : Nat)
  | foreign (controlId : String) (action : PlaybackAction) (revision : Option Nat) (now : Nat)
  | unregister (controlId : String)
  | settle (commandId : String) (status : CommandStatus) (now : Nat)

def askPlayback (commandId : String) (action : PlaybackAction) (world : Playback) :
    Option (Command × Nat) × Db → Playback
  | (none,db) => {world with db := db}
  | (some (command,revision),db) =>
    match command.payload.aoaControlAction with
    | none => {world with db := db}
    | some effective =>
      if command.id = commandId then
        {world with db := db, asked := world.asked++[action], sent := world.sent++[⟨effective,revision⟩]}
      else {world with db := db}

def deliverMessage (controlId : String) (message : ControlMessage) (now : Nat) (world : Playback) : Playback :=
  {world with delivered := world.delivered++[message]
              controls := request world.controls controlId message.action (some message.revision) now}

def refreshPlayback (commandId controlId : String) (now : Nat) (world : Playback) : Playback :=
  match findCommand world.db commandId with
  | none => world
  | some row => match row.payload.aoaControlAction with
    | none => world
    | some action => deliverMessage controlId ⟨action,row.payload.aoaControlRevision⟩ now world

def playbackStep (commandId controlId : String) (step : PlaybackStep) (world : Playback) : Playback :=
  match step with
  | .ask workerId handle ownerId action now =>
    askPlayback commandId action world (requestAoaPlaybackControl world.db workerId handle ownerId action now)
  | .deliver message now => deliverMessage controlId message now world
  | .refresh now => refreshPlayback commandId controlId now world
  | .register other now => {world with controls := ensureControl world.controls other now}
  | .foreign other action revision now => {world with controls := request world.controls other action revision now}
  | .unregister other => {world with controls := unregister world.controls other}
  | .settle other status now => {world with db := settleCommand world.db other status now}

def PlaybackStep.workerTime : PlaybackStep → Option Nat
  | .deliver _ now | .refresh now | .register _ now | .foreign _ _ _ now => some now
  | _ => none

/-- What happens while the sequence runs: only messages that were sent arrive, any number of times, the handle is this sequence's
alone, and its entry, made at `begun` or later, has not outlived its time. -/
def Running (controlId : String) (begun : Nat) (world : Playback) (step : PlaybackStep) : Prop :=
  (∀ now ∈ step.workerTime, begun ≤ now ∧ now ≤ begun+controlTtlSeconds) ∧
  match step with
  | .deliver message _ => message ∈ world.sent
  | .foreign other _ _ _ | .unregister other => other ≠ controlId
  | _ => True

instance (controlId : String) (begun : Nat) (world : Playback) (step : PlaybackStep) :
    Decidable (Running controlId begun world step) := by
  unfold Running
  cases step <;> infer_instance

structure Ordered (commandId controlId : String) (begun : Nat) (world : Playback) : Prop where
  distinct : (world.db.commands.map (·.id)).Nodup
  numbered : world.sent.map (·.revision) = List.range' 1 world.sent.length
  sticky : ∀ earlier ∈ world.sent, ∀ later ∈ world.sent, earlier.revision ≤ later.revision →
    earlier.action = .cancel → later.action = .cancel
  receipt : ∃ row, findCommand world.db commandId = some row ∧ row.payload.aoaControlRevision = world.sent.length ∧
    (row.payload.aoaControlAction = none → world.sent = []) ∧
    ∀ action, row.payload.aoaControlAction = some action → ⟨action,world.sent.length⟩ ∈ world.sent
  requested : .cancel ∈ world.asked → ∃ message ∈ world.sent, message.action = .cancel
  arrived : ∀ message ∈ world.delivered, message ∈ world.sent
  obeyed : Obeyed begun world.delivered (findControl world.controls controlId)

/-- A sequence no control was requested for yet. -/
structure Unrequested (commandId controlId : String) (world : Playback) : Prop where
  distinct : (world.db.commands.map (·.id)).Nodup
  receipt : ∃ row, findCommand world.db commandId = some row ∧ row.payload.aoaControlRevision = 0 ∧
    row.payload.aoaControlAction = none
  asked : world.asked = []
  sent : world.sent = []
  delivered : world.delivered = []
  unknown : findControl world.controls controlId = none

section
variable {commandId controlId : String} {begun : Nat} {world : Playback}

theorem Unrequested.ordered (unrequested : Unrequested commandId controlId world) : Ordered commandId controlId begun world := by
  obtain ⟨row,found,zero,silent⟩ := unrequested.receipt
  have none_sent := unrequested.sent
  refine ⟨unrequested.distinct,?_,?_,⟨row,found,?_,?_,?_⟩,?_,?_,?_⟩
  · simp [none_sent]
  · simp [none_sent]
  · simp [none_sent,zero]
  · exact fun _ => none_sent
  · simp [silent]
  · simp [unrequested.asked]
  · simp [unrequested.delivered]
  · rw [unrequested.unknown]
    exact unrequested.delivered

theorem Ordered.bounds (ordered : Ordered commandId controlId begun world) {message : ControlMessage}
    (member : message ∈ world.sent) : 0 < message.revision ∧ message.revision ≤ world.sent.length := by
  have listed : message.revision ∈ world.sent.map (·.revision) := List.mem_map_of_mem member
  rw [ordered.numbered,List.mem_range'_1] at listed
  omega

theorem Ordered.after_cancel (ordered : Ordered commandId controlId begun world) {row : Command}
    (found : findCommand world.db commandId = some row) {message : ControlMessage} (member : message ∈ world.sent)
    (cancels : message.action = .cancel) : row.payload.aoaControlAction = some .cancel := by
  obtain ⟨held,present,_,silent,last⟩ := ordered.receipt
  have same : held = row := Option.some.inj (present.symm.trans found)
  subst same
  cases stored : held.payload.aoaControlAction with
  | none =>
    rw [silent stored] at member
    cases member
  | some action =>
    have latest := last action stored
    have cancelled := ordered.sticky message member _ latest (ordered.bounds member).2 cancels
    rw [show action = .cancel from cancelled]

theorem after_cancel_eq (stored : Option PlaybackAction) : PlaybackAction.cancel.after stored = .cancel := by
  unfold PlaybackAction.after
  split <;> rfl

section
variable (ordered : Ordered commandId controlId begun world)
include ordered

theorem Ordered.asks {row : Command}
    (found : findCommand world.db commandId = some row) (action : PlaybackAction) (now : Nat)
    {payload : CommandPayload} (stored : payload.aoaControlAction = some (action.after row.payload.aoaControlAction))
    (revised : payload.aoaControlRevision = world.sent.length+1) :
    Ordered commandId controlId begun
      {world with db := writePayload world.db commandId payload now, asked := world.asked++[action]
                  sent := world.sent++[⟨action.after row.payload.aoaControlAction,world.sent.length+1⟩]} := by
  refine ⟨?_,?_,?_,⟨_,writePayload_self found payload now,?_,?_,?_⟩,?_,?_,ordered.obeyed⟩
  · exact (writePayload_ids payload now).symm ▸ ordered.distinct
  · simp [ordered.numbered,List.range'_concat,Nat.add_comm]
  · intro earlier first later second before cancels
    rcases List.mem_append.mp first with old | own <;> rcases List.mem_append.mp second with known | new
    · exact ordered.sticky earlier old later known before cancels
    · rw [List.mem_singleton.mp new]
      simp [PlaybackAction.after,ordered.after_cancel found old cancels]
    · have bound := (ordered.bounds known).2
      rw [List.mem_singleton.mp own] at before
      simp only at before
      omega
    · rw [List.mem_singleton.mp new,← List.mem_singleton.mp own]
      exact cancels
  · simpa using revised
  · intro silent
    rw [silent] at stored
    cases stored
  · intro effective known
    have same : effective = action.after row.payload.aoaControlAction := Option.some.inj (known.symm.trans stored)
    simp [same]
  · intro cancel
    rcases List.mem_append.mp cancel with old | own
    · obtain ⟨message,member,cancels⟩ := ordered.requested old
      exact ⟨message,List.mem_append_left _ member,cancels⟩
    · refine ⟨_,List.mem_append_right _ (List.mem_singleton.mpr rfl),?_⟩
      rw [← List.mem_singleton.mp own]
      exact after_cancel_eq _
  · intro message member
    exact List.mem_append_left _ (ordered.arrived message member)

theorem Ordered.ask (workerId handle ownerId : String)
    (action : PlaybackAction) (now : Nat) :
    Ordered commandId controlId begun (playbackStep commandId controlId (.ask workerId handle ownerId action now) world) := by
  dsimp only [playbackStep,requestAoaPlaybackControl]
  cases found : controlledCommand world.db workerId handle ownerId with
  | none => exact ordered
  | some row =>
    have stored := (findCommand_controlled ordered.distinct found).1
    dsimp only [askPlayback]
    by_cases own : row.id = commandId
    · rw [if_pos own]
      rw [own] at stored ⊢
      obtain ⟨held,present,counted,_,_⟩ := ordered.receipt
      have same : held = row := Option.some.inj (present.symm.trans stored)
      subst same
      rw [counted]
      exact ordered.asks stored action now rfl rfl
    · rw [if_neg own]
      obtain ⟨held,present,counted,silent,last⟩ := ordered.receipt
      refine ⟨?_,ordered.numbered,ordered.sticky,⟨held,?_,counted,silent,last⟩,ordered.requested,ordered.arrived,ordered.obeyed⟩
      · exact (writePayload_ids _ now).symm ▸ ordered.distinct
      · exact (writePayload_other (Ne.symm own) _ now).trans present

theorem Ordered.deliver {message : ControlMessage}
    (sent : message ∈ world.sent) {now : Nat} (begins : begun ≤ now) (timely : now ≤ begun+controlTtlSeconds) :
    Ordered commandId controlId begun (deliverMessage controlId message now world) := by
  refine ⟨ordered.distinct,ordered.numbered,ordered.sticky,ordered.receipt,ordered.requested,?_,?_⟩
  · intro other member
    rcases List.mem_append.mp member with old | new
    · exact ordered.arrived other old
    · exact List.mem_singleton.mp new ▸ sent
  · exact ordered.obeyed.deliver message (ordered.bounds sent).1 begins timely

theorem Ordered.refresh {now : Nat} (begins : begun ≤ now)
    (timely : now ≤ begun+controlTtlSeconds) : Ordered commandId controlId begun (refreshPlayback commandId controlId now world) := by
  obtain ⟨row,found,counted,_,last⟩ := ordered.receipt
  unfold refreshPlayback
  simp only [found]
  cases stored : row.payload.aoaControlAction with
  | none => exact ordered
  | some action =>
    simp only
    rw [counted]
    exact ordered.deliver (last action stored) begins timely

theorem Ordered.controls {controls : List PlaybackControl}
    (obeyed : Obeyed begun world.delivered (findControl controls controlId)) :
    Ordered commandId controlId begun {world with controls := controls} :=
  ⟨ordered.distinct,ordered.numbered,ordered.sticky,ordered.receipt,ordered.requested,ordered.arrived,obeyed⟩

theorem Ordered.settle (other : String) (status : CommandStatus) (now : Nat) :
    Ordered commandId controlId begun {world with db := settleCommand world.db other status now} := by
  obtain ⟨row,found,counted,silent,last⟩ := ordered.receipt
  have kept : ∀ row : Command, ({row with status := status, updatedAt := now} : Command).id = row.id := fun _ => rfl
  have ids : (settleCommand world.db other status now).commands.map (·.id) = world.db.commands.map (·.id) :=
    updateCommand_ids kept
  refine ⟨ids.symm ▸ ordered.distinct,ordered.numbered,ordered.sticky,?_,ordered.requested,ordered.arrived,ordered.obeyed⟩
  by_cases own : commandId = other
  · subst own
    exact ⟨_,updateCommand_self kept found,counted,silent,last⟩
  · exact ⟨row,(updateCommand_other kept own).trans found,counted,silent,last⟩

theorem Ordered.step (step : PlaybackStep)
    (running : Running controlId begun world step) : Ordered commandId controlId begun (playbackStep commandId controlId step world) := by
  obtain ⟨timed,allowed⟩ := running
  cases step with
  | ask workerId handle ownerId action now => exact ordered.ask workerId handle ownerId action now
  | deliver message now => exact ordered.deliver allowed (timed now rfl).1 (timed now rfl).2
  | refresh now => exact ordered.refresh (timed now rfl).1 (timed now rfl).2
  | register other now =>
    apply ordered.controls
    by_cases own : controlId = other
    · subst own
      exact ordered.obeyed.ensure (timed now rfl).1 (timed now rfl).2
    · rw [findControl_ensureControl_other own,findControl_purgeExpired ordered.obeyed (timed now rfl).2]
      exact ordered.obeyed
  | foreign other action revision now =>
    apply ordered.controls
    rw [findControl_request_other (Ne.symm allowed),findControl_purgeExpired ordered.obeyed (timed now rfl).2]
    exact ordered.obeyed
  | unregister other =>
    apply ordered.controls
    rw [findControl_unregister_other (Ne.symm allowed)]
    exact ordered.obeyed
  | settle other status now => exact ordered.settle other status now

theorem Ordered.newest_unique {first second : ControlMessage}
    (left : first ∈ world.sent) (right : second ∈ world.sent) (same : first.revision = second.revision) : first = second := by
  have distinct : (world.sent.map (·.revision)).Nodup := by
    rw [ordered.numbered]
    exact List.nodup_range'
  exact Table.eq_of_key distinct left right same

theorem Ordered.shows_newest {highest : ControlMessage}
    (newest : ∀ message ∈ world.sent, message.revision ≤ highest.revision) (delivered : highest ∈ world.delivered) :
    ∃ control, findControl world.controls controlId = some control ∧
      ControlState.mk control.paused control.cancelled = highest.target := by
  have obeyed := ordered.obeyed
  cases found : findControl world.controls controlId with
  | none =>
    rw [found] at obeyed
    rw [show world.delivered = [] from obeyed] at delivered
    cases delivered
  | some control =>
    rw [found] at obeyed
    refine ⟨control,rfl,?_⟩
    rcases obeyed.2 with ⟨empty,_⟩ | ⟨message,member,_,target,last⟩
    · rw [empty] at delivered
      cases delivered
    · have sent := ordered.arrived message member
      rcases last with cancelled | last
      · have cancels : message.action = .cancel := by
          have shown := congrArg ControlState.cancelled target
          simpa [ControlMessage.target,cancelled] using shown.symm
        have also := ordered.sticky message sent highest (ordered.arrived highest delivered) (newest message sent) cancels
        rw [target]
        simp [ControlMessage.target,cancels,also]
      · have same := ordered.newest_unique sent (ordered.arrived highest delivered)
          (Nat.le_antisymm (newest message sent) (last highest delivered))
        rw [target,same]

theorem Ordered.shows_cancel {message : ControlMessage}
    (delivered : message ∈ world.delivered) (cancels : message.action = .cancel) :
    ∃ control, findControl world.controls controlId = some control ∧
      ControlState.mk control.paused control.cancelled = ⟨false,true⟩ := by
  have obeyed := ordered.obeyed
  cases found : findControl world.controls controlId with
  | none =>
    rw [found] at obeyed
    rw [show world.delivered = [] from obeyed] at delivered
    cases delivered
  | some control =>
    rw [found] at obeyed
    refine ⟨control,rfl,?_⟩
    rcases obeyed.2 with ⟨empty,_⟩ | ⟨held,member,_,target,last⟩
    · rw [empty] at delivered
      cases delivered
    · have shown : held.action = .cancel := by
        rcases last with cancelled | last
        · have shown := congrArg ControlState.cancelled target
          simpa [ControlMessage.target,cancelled] using shown.symm
        · exact ordered.sticky message (ordered.arrived message delivered) held (ordered.arrived held member)
            (last message delivered) cancels
      rw [target]
      simp [ControlMessage.target,shown]

theorem Ordered.status_eq {now : Nat}
    (timely : now ≤ begun+controlTtlSeconds) {control : PlaybackControl}
    (found : findControl world.controls controlId = some control) :
    status world.controls controlId now = some ⟨control.paused,control.cancelled⟩ := by
  unfold status
  rw [findControl_purgeExpired ordered.obeyed timely,found]
  rfl

end

theorem playbackStep_delivered (step : PlaybackStep) {message : ControlMessage} (member : message ∈ world.delivered) :
    message ∈ (playbackStep commandId controlId step world).delivered := by
  cases step with
  | ask workerId handle ownerId action now =>
    dsimp only [playbackStep]
    generalize requestAoaPlaybackControl world.db workerId handle ownerId action now = outcome
    obtain ⟨answer,db⟩ := outcome
    unfold askPlayback
    split
    · exact member
    · split
      · exact member
      · split <;> exact member
  | deliver other now => exact List.mem_append_left _ member
  | refresh now =>
    dsimp only [playbackStep,refreshPlayback]
    split
    · exact member
    · split
      · exact member
      · exact List.mem_append_left _ member
  | register other now => exact member
  | foreign other action revision now => exact member
  | unregister other => exact member
  | settle other status now => exact member

end

theorem Ordered.stays_cancelled {commandId controlId : String} {begun : Nat} {world : Playback}
    (ordered : Ordered commandId controlId begun world) {message : ControlMessage} (delivered : message ∈ world.delivered)
    (cancels : message.action = .cancel) {later : Playback}
    (onwards : Runs.Reached (playbackStep commandId controlId) (Running controlId begun) world later) {now : Nat}
    (timely : now ≤ begun+controlTtlSeconds) : status later.controls controlId now = some ⟨false,true⟩ := by
  have lasting : Ordered commandId controlId begun later ∧ message ∈ later.delivered := by
    refine onwards.invariant (fun world => Ordered commandId controlId begun world ∧ message ∈ world.delivered) ⟨ordered,delivered⟩ ?_
    intro world step holds running
    exact ⟨holds.1.step step running,playbackStep_delivered step holds.2⟩
  obtain ⟨control,found,shown⟩ := lasting.1.shows_cancel lasting.2 cancels
  rw [lasting.1.status_eq timely found,shown]

/-- However the requests for a running sequence travel, the Worker is in the state the newest message asks for once that has
arrived; and once any cancel has arrived it is cancelled and remains so. -/
theorem playback_follows_newest_request (commandId controlId : String) (begun : Nat) (initial world : Playback)
    (unrequested : Unrequested commandId controlId initial)
    (reached : Runs.Reached (playbackStep commandId controlId) (Running controlId begun) initial world) :
    (∀ highest ∈ world.delivered, (∀ message ∈ world.sent, message.revision ≤ highest.revision) →
      (∀ now, now ≤ begun+controlTtlSeconds → status world.controls controlId now = some highest.target) ∧
      (.cancel ∈ world.asked →
        ∀ later, Runs.Reached (playbackStep commandId controlId) (Running controlId begun) world later →
          ∀ now, now ≤ begun+controlTtlSeconds → status later.controls controlId now = some ⟨false,true⟩)) ∧
    (∀ message ∈ world.delivered, message.action = .cancel →
      ∀ later, Runs.Reached (playbackStep commandId controlId) (Running controlId begun) world later →
        ∀ now, now ≤ begun+controlTtlSeconds → status later.controls controlId now = some ⟨false,true⟩) := by
  have ordered : Ordered commandId controlId begun world :=
    reached.invariant _ unrequested.ordered fun _ step holds running => holds.step step running
  constructor
  · intro highest delivered newest
    constructor
    · intro now timely
      obtain ⟨control,found,shown⟩ := ordered.shows_newest newest delivered
      rw [ordered.status_eq timely found,shown]
    · intro cancel later onwards now timely
      obtain ⟨message,member,cancels⟩ := ordered.requested cancel
      have sticky : highest.action = .cancel :=
        ordered.sticky message member highest (ordered.arrived highest delivered) (newest message member) cancels
      exact ordered.stays_cancelled delivered sticky onwards timely
  · intro message delivered cancels later onwards now timely
    exact ordered.stays_cancelled delivered cancels onwards timely

def playbackReceipt : Command :=
  { id := "cmd-1", workerId := "w1", commandType := .deviceAction, jobId := "", attemptId := "", operationId := "device-action-1"
    traceId := "trace-1", status := .running, createdAt := 0, updatedAt := 0
    payload := {ownerId := "alice", playbackControlId := "play", action := .aoaSequence} }

def playbackSteps : List PlaybackStep :=
  [.register "play" 10, .ask "w1" "play" "alice" .pause 11, .ask "w1" "play" "alice" .cancel 12,
    .ask "w1" "play" "alice" .resume 13, .deliver ⟨.cancel,3⟩ 14, .deliver ⟨.pause,1⟩ 15, .deliver ⟨.cancel,3⟩ 16]

theorem playback_follows_newest_request_reordered :
    let world := Runs.exec (playbackStep "cmd-1" "play") {db := {commands := [playbackReceipt]}} playbackSteps
    world.sent = [⟨.pause,1⟩,⟨.cancel,2⟩,⟨.cancel,3⟩] ∧ status world.controls "play" 16 = some ⟨false,true⟩ := by
  intro world
  have unrequested : Unrequested "cmd-1" "play" {db := {commands := [playbackReceipt]}} :=
    ⟨by decide,⟨playbackReceipt,by decide,rfl,rfl⟩,rfl,rfl,rfl,rfl⟩
  have reached : Runs.Reached (playbackStep "cmd-1" "play") (Running "play" 10) {db := {commands := [playbackReceipt]}} world :=
    Runs.Reached.start.along playbackSteps (by decide +kernel)
  obtain ⟨newest,_⟩ := playback_follows_newest_request "cmd-1" "play" 10 _ world unrequested reached
  have followed := newest ⟨.cancel,3⟩ (by decide +kernel) (by decide +kernel)
  exact ⟨by decide +kernel,followed.1 16 (by decide)⟩

end GmsRemoteTest.WorkerAgent
