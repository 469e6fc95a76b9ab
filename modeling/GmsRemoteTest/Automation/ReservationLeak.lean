import GmsRemoteTest.Automation.ReservationCalls
import GmsRemoteTest.Automation.ReservationRelease
import GmsRemoteTest.Automation.StatusPath

/-! Which finished runs still hold a device. `select_devices` commits the reservation before its id
reaches the row of the run, so a run that ends at `waiting_device` releases nothing; after that the
row names the reservation, and a release that returns ends it. -/
namespace GmsRemoteTest.Automation
open Cluster

inductive Custody
  | free | taking | holding | closed
deriving DecidableEq, Repr

def RunStatus.custody : RunStatus → Custody
  | .waitingDevice => .taking
  | .deviceLocked | .flashing | .flashCompleted | .postFlashVerifying | .flashVerified | .aoaRecovering | .testing => .holding
  | .cancelled | .failed | .jenkinsFailed | .artifactMissing | .flashFailed | .aoaFailed | .testFailed | .analysisFailed
  | .reportingFailed => .closed
  | _ => .free

def RunStatus.locked (status : RunStatus) : Prop := RunStatus.deviceLocked.rank ≤ status.rank

theorem RunStatus.custody_free {source target : RunStatus} (allowed : source.allows target) (free : target.custody = .free) :
    source.custody = .free ∨ source = .testing ∧ target = .testRunning := by
  rcases allowed with rfl | ⟨-,next⟩
  · exact .inl free
  · have every : ∀ target ∈ source.forward++[.cancelled,.failed], target.custody = .free →
        source.custody = .free ∨ source = .testing ∧ target = .testRunning := by
      cases source <;> decide
    exact every target next free

theorem RunStatus.custody_holding {source target : RunStatus} (allowed : source.allows target) (holds : target.custody = .holding) :
    source.custody = .holding ∨ source = .waitingDevice ∧ target = .deviceLocked := by
  rcases allowed with rfl | ⟨-,next⟩
  · exact .inl holds
  · have every : ∀ target ∈ source.forward++[.cancelled,.failed], target.custody = .holding →
        source.custody = .holding ∨ source = .waitingDevice ∧ target = .deviceLocked := by
      cases source <;> decide
    exact every target next holds

theorem RunStatus.holding_locked {status : RunStatus} (holds : status.custody = .holding) : status.locked := by
  cases status <;> first | (exact absurd holds (by decide)) | (unfold locked; decide)

theorem RunStatus.taking_waits {status : RunStatus} (takes : status.custody = .taking) : status = .waitingDevice := by
  cases status <;> first | rfl | (exact absurd takes (by decide))

theorem RunStatus.closed_terminal {status : RunStatus} (closed : status.custody = .closed) : status.terminal = true := by
  cases status <;> first | rfl | (exact absurd closed (by decide))

theorem RunStatus.terminal_custody {status : RunStatus} (halted : status.terminal = true) : status.custody = .free ∨ status.custody = .closed := by
  cases status <;> first | (exact .inl rfl) | (exact .inr rfl) | cases halted

/-- The pipeline with the callers whose present call has failed to release. -/
structure Tended where
  world : World State DeviceCall
  failed : List String

section
variable (settings : Settings) (fingerprint : TestRequest → String) (owner : String → String)

def failedAfter (tended : Tended) : PipelineOp DeviceInput → List String
  | .go caller input _ _ => match tended.world.phases caller with
    | .calling run .releaseResources purpose state =>
      if (deviceProceed settings fingerprint (purpose.argument run) state input tended.world.env).2 = .inr none then
        caller :: tended.failed
      else tended.failed
    | .leaving _ => tended.failed.filter (· ≠ caller)
    | _ => tended.failed
  | .crash caller => tended.failed.filter (· ≠ caller)
  | _ => tended.failed

def tendedStep (op : PipelineOp DeviceInput) (tended : Tended) : Tended :=
  ⟨pipelineStep (httpExecutor settings fingerprint) owner op tended.world,failedAfter settings fingerprint tended op⟩

def TakenInTime (shared : Shared State) (run : AutomationRun) (purpose : Purpose) (input : DeviceInput) : Prop :=
  takes shared.env (deviceProceed settings fingerprint (purpose.argument run) .choosing input shared.env).1 →
    (∀ row ∈ shared.runs, row.id = run.id → row.status = .waitingDevice) ∧
    -- a uuid is not drawn twice
    ∀ request ∈ input.request, ∀ item ∈ shared.env.db.reservations, item.reservationId ≠ "reservation-" ++ request.reservationUuid

instance (shared : Shared State) (run : AutomationRun) (purpose : Purpose) (input : DeviceInput) :
    Decidable (TakenInTime settings fingerprint shared run purpose input) := inferInstanceAs (Decidable (_ → _ ∧ _))

def Locks (items : List Reservation) (run : AutomationRun) (target : RunStatus) (columns : Columns) : Prop :=
  target = .deviceLocked → run.status = .waitingDevice → ∀ item ∈ items, item.sourceId = run.id → item.status = .active →
    columns.deviceReservationId = some item.reservationId

instance (items : List Reservation) (run : AutomationRun) (target : RunStatus) (columns : Columns) :
    Decidable (Locks items run target columns) := inferInstanceAs (Decidable (_ → _ → ∀ item ∈ items, _))

/-- A run that waits for a device ends without one, and where a release failed there was nothing to release. -/
def Ends (items : List Reservation) (run : AutomationRun) (target : RunStatus) (reconcile failed : Bool) : Prop :=
  target.custody = .closed → reconcile = false → (run.status = .waitingDevice → ¬ Held items run.id) ∧
    (failed = true → ¬ Reserved items run.deviceReservationId)

instance (items : List Reservation) (run : AutomationRun) (target : RunStatus) (reconcile failed : Bool) :
    Decidable (Ends items run target reconcile failed) := inferInstanceAs (Decidable (_ → _ → _ ∧ _))

def WellTimed (shared : Shared State) (run : AutomationRun) (target : RunStatus) (columns : Columns) (reconcile failed : Bool) : Prop :=
  (∃ row ∈ shared.runs, row.id = run.id ∧ row.status = run.status) →
    Locks shared.env.db.reservations run target columns ∧ Ends shared.env.db.reservations run target reconcile failed

instance (shared : Shared State) (run : AutomationRun) (target : RunStatus) (columns : Columns) (reconcile failed : Bool) :
    Decidable (WellTimed shared run target columns reconcile failed) := inferInstanceAs (Decidable (_ → _ ∧ _))

def Phase.orderly (tended : Tended) (caller : String) (input : DeviceInput) : Phase DeviceCall → Prop
  | .calling run _ purpose state => state = .choosing → TakenInTime settings fingerprint tended.world.toShared run purpose input
  | .swapping run target columns reconcile =>
    WellTimed tended.world.toShared run target columns reconcile (caller ∈ tended.failed)
  | .idle | .found _ _ | .claimed _ _ | .moving _ _ _ | .failing _ _ _ _ | .leaving _ => True

instance (tended : Tended) (caller : String) (input : DeviceInput) :
    DecidablePred (Phase.orderly settings fingerprint tended caller input)
  | .calling _ _ _ _ => inferInstanceAs (Decidable (_ → TakenInTime ..))
  | .swapping _ _ _ _ => inferInstanceAs (Decidable (WellTimed ..))
  | .idle | .found _ _ | .claimed _ _ | .moving _ _ _ | .failing _ _ _ _ | .leaving _ => inferInstanceAs (Decidable True)

def Orderly (tended : Tended) : PipelineOp DeviceInput → Prop
  | .go caller input _ _ => (tended.world.phases caller).orderly settings fingerprint tended caller input
  | _ => True

instance (tended : Tended) : DecidablePred (Orderly settings fingerprint tended)
  | .go _ _ _ _ => inferInstanceAs (Decidable (Phase.orderly ..))
  | .createRun .. | .advanceNext .. | .advanceRun .. | .cancelRun .. | .renewClaim .. | .stopBatch .. | .crash _ | .outside _ =>
    inferInstanceAs (Decidable True)

end

/-- The event ends the run with its devices still to be reconciled. -/
def Event.leaves (id : String) : Event → Bool
  | .moved other _ _ reconcile => decide (other = id) && reconcile
  | .answered _ _ _ => false

def Reconciled (events : List Event) (id : String) : Prop := ∃ event ∈ events, event.leaves id = true

instance (events : List Event) (id : String) : Decidable (Reconciled events id) := inferInstanceAs (Decidable (∃ event ∈ events, _))

def RowSound (items : List Reservation) (events : List Event) (row : AutomationRun) : Prop :=
  match row.status.custody with
  | .free => ¬ Held items row.id
  | .taking => True
  | .holding => ∀ item ∈ items, item.sourceId = row.id → item.status = .active → item.reservationId = row.deviceReservationId
  | .closed => Reconciled events row.id ∨ ¬ Held items row.id

structure Snap (items : List Reservation) (runs : List AutomationRun) (run : AutomationRun) : Prop where
  known : Known items run.deviceReservationId
  stored : ∃ row ∈ runs, row.id = run.id
  locked : run.status.locked → ∀ row ∈ runs, row.id = run.id → row.status.locked ∧ row.deviceReservationId = run.deviceReservationId

structure Backing (items : List Reservation) (failed : Prop) (run : AutomationRun) (target : RunStatus) (columns : Columns)
    (reconcile : Bool) : Prop where
  chosen : ∀ id, columns.deviceReservationId = some id → run.status = .waitingDevice ∧ Known items id
  started : run.status = .testing → target = .testRunning → Spent items run.deviceReservationId
  released : target.custody = .closed → reconcile = false → failed ∨ Spent items run.deviceReservationId

def Phase.tended (items : List Reservation) (runs : List AutomationRun) (failed : Prop) : Phase DeviceCall → Prop
  | .idle | .found _ _ | .claimed _ _ | .leaving _ => True
  | .calling run _ purpose state => Snap items runs run ∧
    (∀ reservation, state = .renewing reservation → Known items reservation.id) ∧
    ∀ target error, purpose = .report target error false → failed ∨ Spent items run.deviceReservationId
  | .failing run _ _ _ => Snap items runs run
  | .moving run target columns => Snap items runs run ∧ Backing items failed run target columns false
  | .swapping run target columns reconcile => Snap items runs run ∧ Backing items failed run target columns reconcile

structure StoreSound (fingerprint : TestRequest → String) (shared : Shared State) : Prop where
  names : Named shared.env.db.reservations
  receipts : Receipted fingerprint shared.env.db
  sources : ∀ id, Held shared.env.db.reservations id → ∃ row ∈ shared.runs, row.id = id
  known : ∀ row ∈ shared.runs, Known shared.env.db.reservations row.deviceReservationId
  rows : ∀ row ∈ shared.runs, RowSound shared.env.db.reservations shared.events row

structure TendedSound (settings : Settings) (fingerprint : TestRequest → String) (tended : Tended) : Prop where
  pipeline : PipelineSound (httpExecutor settings fingerprint) tended.world
  proper : ∀ caller, (tended.world.phases caller).proper
  fits : ∀ caller, (tended.world.phases caller).fits
  store : StoreSound fingerprint tended.world.toShared
  phases : ∀ caller, (tended.world.phases caller).tended tended.world.env.db.reservations tended.world.runs (caller ∈ tended.failed)

section
variable {items later : List Reservation} {runs after : List AutomationRun} {events : List Event} {taken : String → Prop} {failed : Prop}

theorem RowSound.append {row : AutomationRun} (sound : RowSound items events row) (more : List Event) : RowSound items (events++more) row := by
  unfold RowSound at sound ⊢
  cases custody : row.status.custody <;> rw [custody] at sound
  case closed =>
    refine sound.imp_left ?_
    rintro ⟨event,member,left⟩
    exact ⟨event,List.mem_append_left _ member,left⟩
  all_goals exact sound

theorem RowSound.follows {row : AutomationRun} (sound : RowSound items events row) (follows : Carried taken items later)
    (waits : taken row.id → row.status = .waitingDevice) : RowSound later events row := by
  have free : row.status ≠ .waitingDevice → Held later row.id → Held items row.id := by
    intro other held
    exact (held.earlier follows).resolve_right fun allowed => other (waits allowed)
  unfold RowSound at sound ⊢
  cases custody : row.status.custody <;> rw [custody] at sound
  case free => exact fun held => sound (free (by rintro same; rw [same] at custody; cases custody) held)
  case taking => trivial
  case holding =>
    intro item member named active
    rcases follows.active item member active with ⟨earlier,inside,alive,id,source⟩ | ⟨allowed,-,-⟩
    · exact id.symm.trans (sound earlier inside (source.trans named) alive)
    · have other := waits (named ▸ allowed)
      rw [other] at custody
      cases custody
  case closed => exact sound.imp_right fun none held => none (free (by rintro same; rw [same] at custody; cases custody) held)

theorem Snap.follows {run : AutomationRun} (snap : Snap items runs run) (follows : Carried taken items later) : Snap later runs run :=
  ⟨snap.known.follows follows,snap.stored,snap.locked⟩

theorem Backing.follows {run : AutomationRun} {target : RunStatus} {columns : Columns} {reconcile : Bool}
    (change : Backing items failed run target columns reconcile) (follows : Carried taken items later) :
    Backing later failed run target columns reconcile where
  chosen := fun id named => ⟨(change.chosen id named).1,(change.chosen id named).2.follows follows⟩
  started := fun testing running => (change.started testing running).follows follows
  released := fun closed clean => (change.released closed clean).imp_right fun spent => spent.follows follows

theorem Phase.tended.follows {phase : Phase DeviceCall} (sound : phase.tended items runs failed) (follows : Carried taken items later) :
    phase.tended later runs failed := by
  cases phase with
  | idle | found _ _ | claimed _ _ | leaving _ => trivial
  | calling run call purpose state =>
    obtain ⟨snap,found,reports⟩ := sound
    exact ⟨snap.follows follows,fun reservation at_it => (found reservation at_it).follows follows,
      fun target error same => (reports target error same).imp_right fun spent => spent.follows follows⟩
  | failing run target error reconcile => exact Snap.follows sound follows
  | moving run target columns => exact ⟨sound.1.follows follows,sound.2.follows follows⟩
  | swapping run target columns reconcile => exact ⟨sound.1.follows follows,sound.2.follows follows⟩

structure RowsFollow (runs after : List AutomationRun) : Prop where
  stored : ∀ row ∈ runs, ∃ kept ∈ after, kept.id = row.id
  rows : ∀ row ∈ after, (∀ old ∈ runs, old.id ≠ row.id) ∨
    ∃ old ∈ runs, old.id = row.id ∧ (old.status.locked → row.status.locked ∧ row.deviceReservationId = old.deviceReservationId)

theorem Snap.rows {run : AutomationRun} (snap : Snap items runs run) (follow : RowsFollow runs after) : Snap items after run := by
  obtain ⟨row,member,named⟩ := snap.stored
  refine ⟨snap.known,?_,?_⟩
  · obtain ⟨kept,inside,same⟩ := follow.stored row member
    exact ⟨kept,inside,same.trans named⟩
  · intro locked other inside own
    rcases follow.rows other inside with new | ⟨old,present,same,keeps⟩
    · exact absurd (named.trans own.symm) (new row member)
    · obtain ⟨was,reservation⟩ := snap.locked locked old present (same.trans own)
      obtain ⟨still,kept⟩ := keeps was
      exact ⟨still,kept.trans reservation⟩

theorem Phase.tended.rows {phase : Phase DeviceCall} (sound : phase.tended items runs failed) (follow : RowsFollow runs after) :
    phase.tended items after failed := by
  cases phase with
  | idle | found _ _ | claimed _ _ | leaving _ => trivial
  | calling run call purpose state => exact ⟨sound.1.rows follow,sound.2⟩
  | failing run target error reconcile => exact Snap.rows sound follow
  | moving run target columns => exact ⟨sound.1.rows follow,sound.2⟩
  | swapping run target columns reconcile => exact ⟨sound.1.rows follow,sound.2⟩

end

section
variable {aoaEnabled : AutomationRun → Bool} {run : AutomationRun} {answer : Answer} {now : String} {target : RunStatus}

theorem unnamed {columns : Columns} {id : String} (unchosen : columns.deviceReservationId = none)
    (named : columns.deviceReservationId = some id) : False := by
  rw [unchosen] at named
  cases named

theorem opening_custody (moved : opening aoaEnabled run = .move target) : target.custody ≠ .closed ∧ run.status ≠ .testing := by
  cases status : run.status <;> simp only [opening,RunStatus.stageCall,status,reduceCtorEq,Opening.move.injEq] at moved
  all_goals
    subst moved
    refine ⟨?_,by decide⟩
    repeat' split
    all_goals decide

theorem settle_stays {columns : Columns} (stays : settle run answer now = .stay columns) : columns.deviceReservationId = none := by
  unfold settle Answer.failing at stays
  split at stays
  all_goals
    repeat' (split at stays)
    all_goals first
      | cases stays; rfl
      | cases stays

theorem settle_moves {columns : Columns} (moved : settle run answer now = .move target columns) : target.custody ≠ .closed ∧
    (∀ id, columns.deviceReservationId = some id → run.status = .waitingDevice ∧ answer.success.holds = true ∧
      id = answer.reservationId.getD "") ∧ (run.status = .testing → answer.success.holds = true) := by
  unfold settle Answer.failing at moved
  split at moved
  all_goals (rename_i status; try rw [status])
  case h_4 =>
    split at moved
    · split at moved <;> cases moved
    · rename_i succeeded
      cases moved
      refine ⟨by decide,?_,fun testing => absurd testing (by decide)⟩
      intro id named
      exact ⟨rfl,by simpa using succeeded,(Option.some.inj named).symm⟩
  case h_8 =>
    split at moved
    · cases moved
    · rename_i succeeded
      cases moved
      exact ⟨by decide,fun _ named => (unnamed rfl named).elim,fun _ => by simpa using succeeded⟩
  all_goals
    repeat' (split at moved)
    all_goals first
      | cases moved; exact ⟨by decide,fun _ named => (unnamed rfl named).elim,fun testing => absurd testing (by decide)⟩
      | cases moved

end

section
variable {settings : Settings} {fingerprint : TestRequest → String} {items : List Reservation} {runs : List AutomationRun} {failed : Prop}
  {run : AutomationRun}

@[simp] theorem argument_id (purpose : Purpose) (run : AutomationRun) : (purpose.argument run).id = run.id := by
  cases purpose <;> rfl

@[simp] theorem argument_reservation (purpose : Purpose) (run : AutomationRun) :
    (purpose.argument run).deviceReservationId = run.deviceReservationId := by
  cases purpose <;> rfl

theorem Backing.plain {target : RunStatus} {columns : Columns} (unchosen : columns.deviceReservationId = none)
    (idle : run.status = .testing → target ≠ .testRunning) (alive : target.custody ≠ .closed) (reconcile : Bool) :
    Backing items failed run target columns reconcile where
  chosen := fun _ named => (unnamed unchosen named).elim
  started := fun testing running => absurd running (idle testing)
  released := fun closed _ => absurd closed alive

section
variable (snap : Snap items runs run)
include snap

theorem tended_calls (call : ExecutorCall) {purpose : Purpose}
    (reports : ∀ target error, purpose = .report target error false → failed ∨ Spent items run.deviceReservationId) :
    (calls (httpExecutor settings fingerprint) run call purpose).tended items runs failed := by
  refine ⟨snap,?_,reports⟩
  intro reservation named
  cases call <;> cases named

theorem tended_reporting {target : RunStatus} (unstarted : target ≠ .testRunning) (error : String)
    {reconcile : Bool} (now : String) (released : reconcile = false → failed ∨ Spent items run.deviceReservationId) :
    (reporting (httpExecutor settings fingerprint) run target error reconcile now).tended items runs failed := by
  unfold reporting
  split
  · exact ⟨snap,fun _ named => (unnamed rfl named).elim,fun _ running => absurd running unstarted,fun _ clean => released clean⟩
  · refine tended_calls snap _ ?_
    intro other text same
    cases same
    exact released rfl

theorem tended_begin (task : Task) :
    (begin (httpExecutor settings fingerprint) run task).tended items runs failed := by
  cases task with
  | advance =>
    simp only [begin]
    split
    · trivial
    · rename_i target moved
      obtain ⟨alive,idle⟩ := opening_custody moved
      exact ⟨snap,.plain rfl (fun testing => absurd testing idle) alive false⟩
    · exact tended_calls snap _ fun _ _ same => by cases same
  | cancel cleanup => exact tended_calls snap _ fun _ _ same => by cases same

theorem tended_afterAnswer {call : ExecutorCall} {purpose : Purpose} (proper : purpose.proper run call)
    (unfinished : run.status.terminal = false)
    (reports : ∀ target error, purpose = .report target error false → failed ∨ Spent items run.deviceReservationId)
    {answer : Option Answer} (settled : Settled items run call answer)
    (raised : call = .releaseResources → answer = none → failed) (now : String) :
    (afterAnswer (httpExecutor settings fingerprint) run call now purpose answer).tended items runs failed := by
  have terminal : ∀ {target : RunStatus}, target.terminal = true → target ≠ .testRunning := by
    rintro target final rfl
    cases final
  cases purpose with
  | stage =>
    cases answer with
    | none => trivial
    | some answer =>
      have stage : run.status.stageCall = some call := proper
      simp only [afterAnswer]
      split
      · rename_i columns stays
        refine ⟨snap,.plain (settle_stays stays) ?_ ?_ false⟩
        · intro testing running
          rw [testing] at running
          cases running
        · intro closed
          rw [RunStatus.closed_terminal closed] at unfinished
          cases unfinished
      · rename_i target columns moved
        obtain ⟨alive,chosen,started⟩ := settle_moves moved
        refine ⟨snap,?_,?_,fun closed _ => absurd closed alive⟩
        · intro id named
          obtain ⟨waits,succeeded,rfl⟩ := chosen id named
          rw [waits] at stage
          cases stage
          exact ⟨waits,settled succeeded⟩
        · intro testing _
          have succeeded := started testing
          rw [testing] at stage
          cases stage
          exact settled succeeded
      · exact snap
  | cleanup =>
    simp only [afterAnswer]
    split
    · rename_i released
      refine ⟨snap,fun _ named => (unnamed rfl named).elim,fun _ running => absurd running (by decide),fun _ _ => ?_⟩
      rcases proper with rfl | rfl
      · rcases released with other | succeeded
        · cases other
        · cases answer with
          | none => cases succeeded
          | some answer => exact .inr (settled (Option.some.inj succeeded))
      · cases answer with
        | none => exact .inl (raised rfl rfl)
        | some answer => exact .inr settled
    · trivial
  | release target error =>
    obtain ⟨rfl,final,-⟩ := proper
    refine tended_reporting snap (terminal final) error now fun _ => ?_
    cases answer with
    | none => exact .inl (raised rfl rfl)
    | some answer => exact .inr settled
  | report target error reconcile =>
    obtain ⟨-,final,-⟩ := proper
    refine ⟨snap,fun _ named => (unnamed rfl named).elim,fun _ running => absurd running (terminal final),fun _ clean => ?_⟩
    subst clean
    exact reports target error rfl

end

end

section
variable {settings : Settings} {fingerprint : TestRequest → String} {runs : List AutomationRun} {env : State} {events : List Event}

theorem RowsFollow.refl (runs : List AutomationRun) : RowsFollow runs runs :=
  ⟨fun row member => ⟨row,member,rfl⟩,fun row member => .inr ⟨row,member,rfl,fun locked => ⟨locked,rfl⟩⟩⟩

section
variable (store : StoreSound fingerprint ⟨runs,env,events⟩)
include store

theorem StoreSound.reserve {taken : String → Prop} {after : State}
    (follows : Carried taken env.db.reservations after.db.reservations) (receipts : Receipted fingerprint after.db)
    (waits : ∀ id, taken id → (∃ row ∈ runs, row.id = id) ∧ ∀ row ∈ runs, row.id = id → row.status = .waitingDevice)
    (more : List Event) : StoreSound fingerprint ⟨runs,after,events++more⟩ where
  names := store.names.follows follows
  receipts := receipts
  sources := fun id held => (held.earlier follows).elim (store.sources id) fun allowed => (waits id allowed).1
  known := fun row member => (store.known row member).follows follows
  rows := fun row member => ((store.rows row member).follows follows fun allowed => (waits _ allowed).2 row member rfl).append more

theorem StoreSound.update {selects : AutomationRun → Prop} [DecidablePred selects]
    {set : AutomationRun → AutomationRun} (more : List Event) (kept : ∀ row, (set row).id = row.id)
    (moves : ∀ row ∈ runs, selects row → Known env.db.reservations (set row).deviceReservationId ∧
      RowSound env.db.reservations (events++more) (set row) ∧
      (row.status.locked → (set row).status.locked ∧ (set row).deviceReservationId = row.deviceReservationId)) :
    StoreSound fingerprint ⟨Table.update selects set runs,env,events++more⟩ ∧ RowsFollow runs (Table.update selects set runs) := by
  have same : ∀ row : AutomationRun, (if selects row then set row else row).id = row.id := by
    intro row
    split
    · exact kept row
    · rfl
  have stored : ∀ row ∈ runs, ∃ after ∈ Table.update selects set runs, after.id = row.id :=
    fun row member => ⟨_,Table.mem_update.mpr ⟨row,member,rfl⟩,same row⟩
  refine ⟨⟨store.names,store.receipts,?_,?_,?_⟩,stored,?_⟩
  · intro id held
    obtain ⟨row,member,rfl⟩ := store.sources id held
    exact stored row member
  · intro row member
    obtain ⟨old,inside,rfl⟩ := Table.mem_update.mp member
    split
    · rename_i chosen
      exact (moves old inside chosen).1
    · exact store.known old inside
  · intro row member
    obtain ⟨old,inside,rfl⟩ := Table.mem_update.mp member
    split
    · rename_i chosen
      exact (moves old inside chosen).2.1
    · exact (store.rows old inside).append more
  · intro row member
    obtain ⟨old,inside,rfl⟩ := Table.mem_update.mp member
    refine .inr ⟨old,inside,(same old).symm,?_⟩
    split
    · rename_i chosen
      exact (moves old inside chosen).2.2
    · exact fun locked => ⟨locked,rfl⟩

theorem StoreSound.touch {selects : AutomationRun → Prop} [DecidablePred selects]
    {set : AutomationRun → AutomationRun}
    (kept : ∀ row, (set row).id = row.id ∧ (set row).status = row.status ∧ (set row).deviceReservationId = row.deviceReservationId) :
    StoreSound fingerprint ⟨Table.update selects set runs,env,events⟩ ∧ RowsFollow runs (Table.update selects set runs) := by
  have updated : StoreSound fingerprint ⟨Table.update selects set runs,env,events++[]⟩ ∧ RowsFollow runs (Table.update selects set runs) :=
    store.update [] (fun row => (kept row).1) ?_
  · rwa [List.append_nil] at updated
  · intro row member _
    obtain ⟨id,status,reservation⟩ := kept row
    have sound := (store.rows row member).append []
    refine ⟨?_,?_,?_⟩
    · rw [reservation]
      exact store.known row member
    · unfold RowSound at sound ⊢
      rwa [id,status,reservation]
    · rw [status,reservation]
      exact fun locked => ⟨locked,rfl⟩

theorem StoreSound.claimRun (id owner now expiry : String) :
    StoreSound fingerprint ⟨(RunStore.claimRun runs id owner now expiry).2,env,events⟩ ∧
      RowsFollow runs (RunStore.claimRun runs id owner now expiry).2 := by
  refine store.touch ?_
  exact fun _ => ⟨rfl,rfl,rfl⟩

theorem StoreSound.releaseClaim (id owner : String) :
    StoreSound fingerprint ⟨RunStore.releaseClaim runs id owner,env,events⟩ ∧ RowsFollow runs (RunStore.releaseClaim runs id owner) := by
  refine store.touch ?_
  exact fun _ => ⟨rfl,rfl,rfl⟩

theorem StoreSound.renewClaim (id owner expiry : String) :
    StoreSound fingerprint ⟨RunStore.renewClaim runs id owner expiry,env,events⟩ ∧ RowsFollow runs (RunStore.renewClaim runs id owner expiry) := by
  refine store.touch ?_
  exact fun _ => ⟨rfl,rfl,rfl⟩

theorem StoreSound.claimNextActive (owner now expiry : String) :
    StoreSound fingerprint ⟨(RunStore.claimNextActive runs owner now expiry).2,env,events⟩ ∧
      RowsFollow runs (RunStore.claimNextActive runs owner now expiry).2 := by
  unfold RunStore.claimNextActive
  split
  · exact ⟨store,.refl runs⟩
  · refine store.touch ?_
    exact fun _ => ⟨rfl,rfl,rfl⟩

end

theorem RowSound.empty {items : List Reservation} {row : AutomationRun} (sound : RowSound items events row)
    (holds : row.status.custody = .holding) (halted : ¬ Reserved items row.deviceReservationId) : ¬ Held items row.id := by
  unfold RowSound at sound
  rw [holds] at sound
  rintro ⟨item,member,own,active⟩
  exact halted ⟨item,member,sound item member own active,active⟩

theorem StoreSound.swap (store : StoreSound fingerprint ⟨runs,env,events⟩) {run : AutomationRun} {target : RunStatus} {columns : Columns}
    {reconcile failed : Bool} (snap : Snap env.db.reservations runs run)
    (change : Backing env.db.reservations (failed = true) run target columns reconcile) (unfinished : run.status.terminal = false)
    (allowed : run.status.allows target) (ahead : target = run.status ∨ run.status.rank < target.rank)
    (ordered : WellTimed ⟨runs,env,events⟩ run target columns reconcile failed) (now : String) :
    let swap := RunStore.updateRunIfStatus runs run.id run.status target columns now
    let moved := if swap.1 = true ∧ target ≠ run.status then [Event.moved run.id run.status target reconcile] else []
    StoreSound fingerprint ⟨swap.2,env,events++moved⟩ ∧ RowsFollow runs swap.2 := by
  intro swap moved
  have applied : swap = (decide (∃ row ∈ runs, row.id = run.id ∧ row.status = run.status),
      Table.update (fun row : AutomationRun => row.id = run.id ∧ row.status = run.status) (RunStore.written target columns now) runs) :=
    if_pos allowed
  have rows : swap.2 = _ := congrArg Prod.snd applied
  rw [rows]
  refine store.update moved (fun _ => rfl) fun row member chosen => ?_
  obtain ⟨own,status⟩ := chosen
  obtain ⟨locks,ends⟩ := ordered ⟨row,member,own,status⟩
  have sound := store.rows row member
  have unchosen : run.status ≠ .waitingDevice → columns.deviceReservationId = none := by
    intro other
    cases named : columns.deviceReservationId with
    | none => rfl
    | some id => exact absurd (change.chosen id named).1 other
  have reservation : (RunStore.written target columns now row).deviceReservationId =
      columns.deviceReservationId.getD row.deviceReservationId := rfl
  have same : run.status.locked → row.deviceReservationId = run.deviceReservationId := fun locked => (snap.locked locked row member own).2
  have waiting : ¬ RunStatus.waitingDevice.locked := by unfold RunStatus.locked; decide
  refine ⟨?_,?_,?_⟩
  · rw [reservation]
    cases named : columns.deviceReservationId with
    | none => exact store.known row member
    | some id => exact (change.chosen id named).2
  · have halted : ¬ Reserved env.db.reservations run.deviceReservationId → run.status.custody = .holding →
        ¬ Held env.db.reservations row.id := by
      intro gone holds
      refine sound.empty (by rw [status]; exact holds) ?_
      rwa [same (RunStatus.holding_locked holds)]
    have free : run.status.custody = .free → ¬ Held env.db.reservations row.id := by
      intro free
      unfold RowSound at sound
      rwa [status,free] at sound
    unfold RowSound
    change match target.custody with | .free => _ | .taking => _ | .holding => _ | .closed => _
    cases custody : target.custody with
    | free =>
      rcases RunStatus.custody_free allowed custody with before | ⟨testing,running⟩
      · exact free before
      · exact halted (change.started testing running).2 (by rw [testing]; rfl)
    | taking => trivial
    | holding =>
      intro item inside named active
      rw [reservation]
      rcases RunStatus.custody_holding allowed custody with before | ⟨waits,locked⟩
      · rw [unchosen (by rintro waits; rw [waits] at before; cases before)]
        unfold RowSound at sound
        rw [status,before] at sound
        exact sound item inside named active
      · rw [locks locked waits item inside (named.trans own) active]
        rfl
    | closed =>
      cases clean : reconcile with
      | true =>
        refine .inl ⟨.moved run.id run.status target reconcile,List.mem_append_right _ ?_,?_⟩
        · have other : target ≠ run.status := by
            rintro rfl
            rw [RunStatus.closed_terminal custody] at unfinished
            cases unfinished
          have swapped : swap.1 = true := by
            rw [applied]
            exact decide_eq_true ⟨row,member,own,status⟩
          have told : moved = [Event.moved run.id run.status target reconcile] := if_pos ⟨swapped,other⟩
          rw [told]
          exact List.mem_singleton_self _
        · rw [Event.leaves,clean,Bool.and_true]
          exact decide_eq_true own.symm
      | false =>
        refine .inr ?_
        obtain ⟨waits,needless⟩ := ends custody clean
        cases before : run.status.custody with
        | free => exact free before
        | taking => exact own ▸ waits (RunStatus.taking_waits before)
        | holding => exact halted ((change.released custody clean).elim needless fun spent => spent.2) before
        | closed =>
          rw [RunStatus.closed_terminal before] at unfinished
          cases unfinished
  · intro locked
    rw [status] at locked
    refine ⟨?_,?_⟩
    · rcases ahead with stays | up
      · change target.locked
        rwa [stays]
      · exact locked.trans up.le
    · rw [reservation,unchosen fun waits => waiting (waits ▸ locked)]
      rfl

theorem Snap.read {items : List Reservation} (distinct : (runs.map (·.id)).Nodup) {run : AutomationRun} (member : run ∈ runs)
    (known : Known items run.deviceReservationId) : Snap items runs run := by
  refine ⟨known,⟨run,member,rfl⟩,fun locked other inside same => ?_⟩
  cases Table.eq_of_key distinct inside member same
  exact ⟨locked,rfl⟩

theorem Phase.tended.weaken {items : List Reservation} {phase : Phase DeviceCall} {failed after : Prop}
    (sound : phase.tended items runs failed) (more : failed → after) : phase.tended items runs after := by
  have change : ∀ {run target columns reconcile}, Backing items failed run target columns reconcile →
      Backing items after run target columns reconcile :=
    fun change => ⟨change.chosen,change.started,fun closed clean => (change.released closed clean).imp_left more⟩
  cases phase with
  | idle | found _ _ | claimed _ _ | leaving _ => trivial
  | calling run call purpose state => exact ⟨sound.1,sound.2.1,fun target error same => (sound.2.2 target error same).imp_left more⟩
  | failing run target error reconcile => exact sound
  | moving run target columns => exact ⟨sound.1,change sound.2⟩
  | swapping run target columns reconcile => exact ⟨sound.1,change sound.2⟩

/-- What the rows of the runs and of the reservations become leaves every caller sound. -/
def Kept (before after : Shared State) : Prop := ∀ (phase : Phase DeviceCall) (failed : Prop),
  phase.tended before.env.db.reservations before.runs failed → phase.tended after.env.db.reservations after.runs failed

theorem proceed_tended {shared : Shared State} (store : StoreSound fingerprint shared) (distinct : (shared.runs.map (·.id)).Nodup)
    (apart : ∀ first second, fingerprint first = fingerprint second → first.deviceReservationId = second.deviceReservationId)
    {phase : Phase DeviceCall} (proper : phase.proper) (fits : phase.fits) (sound : phase.sound (httpExecutor settings fingerprint) shared.events)
    (failed : Bool) (tended : phase.tended shared.env.db.reservations shared.runs (failed = true)) (input : DeviceInput)
    (taken : ∀ run call purpose, phase = .calling run call purpose .choosing → TakenInTime settings fingerprint shared run purpose input)
    (ordered : ∀ run target columns reconcile, phase = .swapping run target columns reconcile →
      WellTimed shared run target columns reconcile failed)
    (after : Prop) (more : failed = true → after)
    (raised : ∀ run purpose state, phase = .calling run .releaseResources purpose state →
      (deviceProceed settings fingerprint (purpose.argument run) state input shared.env).2 = .inr none → after)
    (owner now expiry : String) :
    let next := proceed (httpExecutor settings fingerprint) owner input now expiry shared phase
    StoreSound fingerprint next.1 ∧ Kept shared next.1 ∧ next.2.tended next.1.env.db.reservations next.1.runs after := by
  have unchanged : Kept shared shared := fun _ _ sound => sound
  cases phase with
  | idle => exact ⟨store,unchanged,trivial⟩
  | found id task =>
    obtain ⟨store,follow⟩ := store.claimRun id owner now expiry
    refine ⟨store,fun _ _ sound => sound.rows follow,?_⟩
    simp only [proceed]
    split <;> trivial
  | claimed id task =>
    simp only [proceed]
    split
    · exact ⟨store,unchanged,trivial⟩
    · rename_i run found
      refine ⟨store,unchanged,?_⟩
      have member := Table.fetch_mem found
      dsimp only
      split
      · trivial
      · exact tended_begin (.read distinct member (store.known run member)) task
  | calling run call purpose state =>
    obtain ⟨snap,found,reports⟩ := tended
    have kept : CallKeeps fingerprint (chosenFor settings fingerprint (purpose.argument run) state input shared.env) shared.env
        (purpose.argument run) call (deviceProceed settings fingerprint (purpose.argument run) state input shared.env) := by
      refine deviceProceed_keeps store.receipts store.names ?_ apart fits found input ?_
      · rw [argument_reservation]
        exact snap.known
      · rintro rfl grew
        exact (taken run call purpose rfl grew).2
    have waits : ∀ id, chosenFor settings fingerprint (purpose.argument run) state input shared.env id →
        (∃ row ∈ shared.runs, row.id = id) ∧ ∀ row ∈ shared.runs, row.id = id → row.status = .waitingDevice := by
      rintro id ⟨rfl,rfl,grew⟩
      rw [argument_id]
      exact ⟨snap.stored,(taken run call purpose rfl grew).1⟩
    have reserved := fun more => store.reserve kept.follows kept.receipts waits more
    have others : ∀ events, Kept shared ⟨shared.runs,(deviceProceed settings fingerprint (purpose.argument run) state input shared.env).1,events⟩ :=
      fun _ _ _ sound => sound.follows kept.follows
    have reports : ∀ target error, purpose = .report target error false → after ∨
        Spent (deviceProceed settings fingerprint (purpose.argument run) state input shared.env).1.db.reservations run.deviceReservationId :=
      fun target error same => (reports target error same).imp more fun spent => spent.follows kept.follows
    simp only [proceed]
    split
    · rename_i next goes
      refine ⟨List.append_nil shared.events ▸ reserved [],others _,snap.follows kept.follows,?_,reports⟩
      rintro reservation rfl
      exact kept.goes reservation goes
    · rename_i answer told
      refine ⟨reserved _,others _,?_⟩
      have settled := kept.answers answer told
      refine tended_afterAnswer (snap.follows kept.follows) proper.2 proper.1 reports ?_ ?_ now
      · unfold Settled at settled ⊢
        simpa using settled
      · rintro rfl rfl
        exact raised run purpose state rfl told
  | moving run target columns =>
    refine ⟨store,unchanged,?_⟩
    simp only [proceed]
    split
    · trivial
    · exact ⟨tended.1,tended.2.chosen,tended.2.started,fun closed clean => (tended.2.released closed clean).imp_left more⟩
  | failing run target error reconcile =>
    refine ⟨store,unchanged,?_⟩
    have unstarted : target ≠ .testRunning := by
      rintro rfl
      cases proper.2.1
    simp only [proceed]
    split
    · trivial
    · split
      · rename_i held
        exact tended_reporting tended unstarted error now fun clean => absurd (held.symm.trans clean) (by decide)
      · exact tended_calls tended _ fun _ _ same => by cases same
  | swapping run target columns reconcile =>
    have ahead : target = run.status ∨ run.status.rank < target.rank := sound.2.imp (fun stays => stays.1) fun proposed => proposed.ahead
    obtain ⟨store,follow⟩ := store.swap tended.1 tended.2 proper.1 proper.2 ahead (ordered run target columns reconcile rfl) now
    exact ⟨store,fun _ _ sound => sound.rows follow,trivial⟩
  | leaving id =>
    obtain ⟨store,follow⟩ := store.releaseClaim id owner
    exact ⟨store,fun _ _ sound => sound.rows follow,trivial⟩

theorem StoreSound.create (store : StoreSound fingerprint ⟨runs,env,events⟩) (request : RunRequest) (id now : String) :
    StoreSound fingerprint ⟨RunStore.createRun runs (request.toRunDict id now),env,events⟩ ∧
      RowsFollow runs (RunStore.createRun runs (request.toRunDict id now)) := by
  unfold RunStore.createRun
  split
  · exact ⟨store,.refl runs⟩
  · rename_i absent
    have new : ∀ old ∈ runs, old.id ≠ id := fun old member same => absent ⟨old,member,.inl same⟩
    refine ⟨⟨store.names,store.receipts,?_,?_,?_⟩,?_,?_⟩
    · intro other held
      obtain ⟨row,member,named⟩ := store.sources other held
      exact ⟨row,List.mem_append_left _ member,named⟩
    · intro row member
      rcases List.mem_append.mp member with old | fresh
      · exact store.known row old
      · rw [List.mem_singleton.mp fresh]
        exact .inl rfl
    · intro row member
      rcases List.mem_append.mp member with old | fresh
      · exact store.rows row old
      · rw [List.mem_singleton.mp fresh]
        intro held
        obtain ⟨row,member,named⟩ := store.sources _ held
        exact new row member named
    · exact fun row member => ⟨row,List.mem_append_left _ member,rfl⟩
    · intro row member
      rcases List.mem_append.mp member with old | fresh
      · exact .inr ⟨row,old,rfl,fun locked => ⟨locked,rfl⟩⟩
      · rw [List.mem_singleton.mp fresh]
        exact .inl new

theorem StoreSound.stop (store : StoreSound fingerprint ⟨runs,env,events⟩) (batchId now : String) (more : List Event) :
    StoreSound fingerprint ⟨RunStore.stopPending runs batchId now,env,events++more⟩ ∧
      RowsFollow runs (RunStore.stopPending runs batchId now) := by
  refine store.update more (fun _ => rfl) fun row member chosen => ?_
  have queued : row.status = .queued := chosen.2.2.1
  refine ⟨store.known row member,.inr ?_,fun locked => ?_⟩
  · have sound := store.rows row member
    unfold RowSound at sound
    rwa [queued] at sound
  · rw [queued] at locked
    exact absurd locked (by unfold RunStatus.locked; decide)

theorem cluster_keeps (settings : Settings) (store : StoreSound fingerprint ⟨runs,env,events⟩) (change : ClusterChange) :
    Carried (fun _ => False) env.db.reservations (clusterChange settings fingerprint env change).db.reservations ∧
      Receipted fingerprint (clusterChange settings fingerprint env change).db := by
  cases change with
  | others db claims => exact ⟨.refl _,store.receipts⟩
  | expire now =>
    have follows := expire_follows env now
    exact ⟨follows,store.receipts.follows (expire_receipts env now) follows⟩
  | createJob data request now =>
    obtain ⟨follows,receipts,-⟩ := create_spent settings store.names store.receipts {data with
      deviceReservationId := request.deviceReservationId
      requestHash := fingerprint request} request ⟨rfl,rfl⟩ now
    exact ⟨follows,receipts⟩

theorem tended_lookUp {items : List Reservation} {failed : Prop} (id : String) (task : Task) :
    (lookUp runs id task : Phase DeviceCall).tended items runs failed := by
  unfold lookUp
  split
  · trivial
  · split <;> trivial

theorem failedAfter_other {tended : Tended} {caller other : String} (different : other ≠ caller) (input : DeviceInput) (now expiry : String)
    (failed : other ∈ tended.failed) : other ∈ failedAfter settings fingerprint tended (.go caller input now expiry) := by
  simp only [failedAfter]
  split
  · split
    · exact List.mem_cons_of_mem _ failed
    · exact failed
  · exact List.mem_filter.mpr ⟨failed,by simpa using different⟩
  · exact failed

variable {owner : String → String}

section
variable {tended : Tended} (sound : TendedSound settings fingerprint tended)
include sound

theorem TendedSound.go (apart : ∀ first second, fingerprint first = fingerprint second → first.deviceReservationId = second.deviceReservationId)
    {caller : String} {input : DeviceInput} {now expiry : String} (orderly : Orderly settings fingerprint tended (.go caller input now expiry)) :
    let next := tendedStep settings fingerprint owner (.go caller input now expiry) tended
    StoreSound fingerprint next.world.toShared ∧ ∀ other,
      (next.world.phases other).tended next.world.env.db.reservations next.world.runs (other ∈ next.failed) := by
  intro next
  have store := sound.store
  let moved := proceed (httpExecutor settings fingerprint) (owner caller) input now expiry tended.world.toShared (tended.world.phases caller)
  have own := fun after => proceed_tended store sound.pipeline.tracked.distinct apart (sound.proper caller) (sound.fits caller)
    (sound.pipeline.phases caller) (decide (caller ∈ tended.failed)) ((sound.phases caller).weaken decide_eq_true) input
    (fun run call purpose held => by
      simp only [Orderly,held] at orderly
      exact orderly rfl)
    (fun run target columns reconcile held => by
      simp only [Orderly,held] at orderly
      exact orderly) after
  obtain ⟨after,kept,-⟩ := own True (fun _ => trivial) (fun _ _ _ _ _ => trivial) (owner caller) now expiry
  refine ⟨after,fun other => ?_⟩
  by_cases same : other = caller
  · subst same
    change (Function.update tended.world.phases other moved.2 other).tended moved.1.env.db.reservations moved.1.runs _
    rw [Function.update_self]
    by_cases leaving : ∃ id, tended.world.phases other = .leaving id
    · obtain ⟨id,held⟩ := leaving
      have rest : moved.2 = .idle := by
        simp only [moved,held]
        rfl
      rw [rest]
      trivial
    · refine (own _ (fun failed => ?_) (fun run purpose state held raised => ?_) (owner other) now expiry).2.2
      · change other ∈ failedAfter settings fingerprint tended (.go other input now expiry)
        simp only [failedAfter]
        split
        · split
          · exact List.mem_cons_self
          · exact of_decide_eq_true failed
        · rename_i id held
          exact absurd ⟨id,held⟩ leaving
        · exact of_decide_eq_true failed
      · change other ∈ failedAfter settings fingerprint tended (.go other input now expiry)
        simp only [failedAfter,held,raised,if_pos]
        exact List.mem_cons_self
  · change (Function.update tended.world.phases caller moved.2 other).tended moved.1.env.db.reservations moved.1.runs _
    rw [Function.update_of_ne same]
    exact (kept _ _ (sound.phases other)).weaken (failedAfter_other same input now expiry)

theorem TendedSound.opens (caller : String) {shared : Shared State}
    (phase : Phase DeviceCall) (store : StoreSound fingerprint shared) (kept : Kept tended.world.toShared shared)
    (next : ∀ failed, phase.tended shared.env.db.reservations shared.runs failed) :
    let opened := opens tended.world caller (shared,phase)
    StoreSound fingerprint opened.toShared ∧
      ∀ other, (opened.phases other).tended opened.env.db.reservations opened.runs (other ∈ tended.failed) := by
  intro opened
  simp only [opened]
  unfold Automation.opens
  split
  · refine ⟨store,fun other => ?_⟩
    change (Function.update tended.world.phases caller phase other).tended _ _ _
    by_cases same : other = caller
    · subst same
      rw [Function.update_self]
      exact next _
    · rw [Function.update_of_ne same]
      exact kept _ _ (sound.phases other)
  · exact ⟨sound.store,sound.phases⟩

theorem TendedSound.step (apart : ∀ first second, fingerprint first = fingerprint second → first.deviceReservationId = second.deviceReservationId)
    {op : PipelineOp DeviceInput} (orderly : Orderly settings fingerprint tended op) :
    TendedSound settings fingerprint (tendedStep settings fingerprint owner op tended) := by
  have pipeline := sound.pipeline.step owner op
  have proper : ∀ caller, ((pipelineStep (httpExecutor settings fingerprint) owner op tended.world).phases caller).proper :=
    proper_step sound.proper owner op
  have fits : ∀ caller, ((pipelineStep (httpExecutor settings fingerprint) owner op tended.world).phases caller).fits :=
    fits_step sound.fits owner op
  have store := sound.store
  have rows := fun {after} (follow : RowsFollow tended.world.runs after) caller => (sound.phases caller).rows follow
  cases op with
  | createRun request id now =>
    obtain ⟨store,follow⟩ := store.create request id now
    exact ⟨pipeline,proper,fits,store,rows follow⟩
  | advanceNext caller now expiry =>
    obtain ⟨claimed,follow⟩ := store.claimNextActive (owner caller) now expiry
    have opened := fun phase next => sound.opens caller phase claimed (fun _ _ sound => sound.rows follow) next
    refine ⟨pipeline,proper,fits,(opened _ ?begins).1,(opened _ ?begins).2⟩
    intro failed
    dsimp only
    split <;> trivial
  | advanceRun caller id =>
    obtain ⟨store,phases⟩ := sound.opens caller _ store (fun _ _ sound => sound) fun _ => tended_lookUp id .advance
    exact ⟨pipeline,proper,fits,store,phases⟩
  | cancelRun caller id cleanup =>
    obtain ⟨store,phases⟩ := sound.opens caller _ store (fun _ _ sound => sound) fun _ => tended_lookUp id (.cancel cleanup)
    exact ⟨pipeline,proper,fits,store,phases⟩
  | go caller input now expiry =>
    obtain ⟨store,phases⟩ := sound.go apart orderly
    exact ⟨pipeline,proper,fits,store,phases⟩
  | renewClaim caller id expiry =>
    obtain ⟨store,follow⟩ := store.renewClaim id (owner caller) expiry
    exact ⟨pipeline,proper,fits,store,rows follow⟩
  | stopBatch batchId now =>
    obtain ⟨store,follow⟩ := store.stop batchId now (stopEvents tended.world.runs batchId)
    exact ⟨pipeline,proper,fits,store,rows follow⟩
  | crash caller =>
    refine ⟨pipeline,proper,fits,store,fun other => ?_⟩
    change (Function.update tended.world.phases caller .idle other).tended _ _ _
    by_cases same : other = caller
    · subst same
      rw [Function.update_self]
      trivial
    · rw [Function.update_of_ne same]
      refine (sound.phases other).weaken fun failed => ?_
      exact List.mem_filter.mpr ⟨failed,by simpa using same⟩
  | outside input =>
    obtain ⟨follows,receipts⟩ := cluster_keeps settings store input.change
    have reserved := store.reserve follows receipts (fun _ none => none.elim) []
    rw [List.append_nil] at reserved
    exact ⟨pipeline,proper,fits,reserved,fun caller => (sound.phases caller).follows follows⟩

end

end

def tendedStart : Tended := ⟨emptyWorld {},[]⟩

theorem TendedSound.start (settings : Settings) (fingerprint : TestRequest → String) : TendedSound settings fingerprint tendedStart where
  pipeline := PipelineSound.empty ({} : State)
  proper := fun _ => trivial
  fits := fun _ => trivial
  store := ⟨fun _ member => (List.not_mem_nil member).elim,fun _ member => (List.not_mem_nil member).elim,
    fun _ ⟨_,member,_⟩ => (List.not_mem_nil member).elim,fun _ member => (List.not_mem_nil member).elim,
    fun _ member => (List.not_mem_nil member).elim⟩
  phases := fun _ => trivial

/-- In every run in which reservations are taken for runs that wait for a device, the one that is locked is the active one, no run
ends while it waits with a reservation and none after a release that failed: a terminal run that was never left to be reconciled
has no active reservation. -/
theorem finished_run_holds_nothing (settings : Settings) (fingerprint : TestRequest → String) (owner : String → String) (tended : Tended)
    (apart : ∀ first second, fingerprint first = fingerprint second → first.deviceReservationId = second.deviceReservationId)
    (reached : Runs.Reached (tendedStep settings fingerprint owner) (Orderly settings fingerprint) tendedStart tended)
    (run : AutomationRun) (stored : run ∈ tended.world.runs) (halted : run.status.terminal = true)
    (clean : ¬ Reconciled tended.world.events run.id) :
    ∀ item ∈ tended.world.env.db.reservations, item.sourceId = run.id → item.status ≠ .active := by
  have sound : TendedSound settings fingerprint tended := reached.invariant (TendedSound settings fingerprint) (.start settings fingerprint)
    fun _ _ sound orderly => sound.step apart orderly
  have row := sound.store.rows run stored
  have free : ¬ Held tended.world.env.db.reservations run.id := by
    unfold RowSound at row
    rcases RunStatus.terminal_custody halted with custody | custody
    · rwa [custody] at row
    · rw [custody] at row
      exact row.resolve_left clean
  exact fun item member own active => free ⟨item,member,own,active⟩

def deviceAppears : PipelineOp DeviceInput := .outside {change := .others freeDevice.db freeDevice.claims}

theorem finished_run_holds_nothing_flash_failed :
    let tended := Runs.exec (tendedStep {} (·.deviceReservationId) id) tendedStart (deviceAppears :: (flashAsked++failedFlash))
    ∃ run ∈ tended.world.runs, run.status = .flashFailed ∧
      ∀ item ∈ tended.world.env.db.reservations, item.sourceId = run.id → item.status ≠ .active := by
  intro tended
  have failed : ∃ run ∈ tended.world.runs, run.status = .flashFailed ∧ ¬ Reconciled tended.world.events run.id := by decide +kernel
  obtain ⟨run,stored,status,clean⟩ := failed
  exact ⟨run,stored,status,finished_run_holds_nothing {} (·.deviceReservationId) id tended (fun _ _ same => same)
    (Runs.Reached.along .start _ (by decide +kernel)) run stored (by rw [status]; rfl) clean⟩

def lostReservation : List (PipelineOp DeviceInput) :=
  deviceAppears :: .createRun {} "run-1" "t0" :: (deviceTurn "a" "t1" "t2" 6 none++deviceTurn "a" "t1" "t2" 4 none++
    [.crash "a",.cancelRun "b" "run-1" false]++List.replicate 6 (.go "b" {now := 1001} "t3" "t4"))

theorem lost_reservation_leaks : ¬ ∀ (ops : List (PipelineOp DeviceInput)) (run : AutomationRun),
    let world := (Runs.exec (tendedStep {} (·.deviceReservationId) id) tendedStart ops).world
    run ∈ world.runs → run.status.terminal = true → ¬ Reconciled world.events run.id →
    ∀ item ∈ world.env.db.reservations, item.sourceId = run.id → item.status ≠ .active := by
  intro always
  have leaked : let world := (Runs.exec (tendedStep {} (·.deviceReservationId) id) tendedStart lostReservation).world
      ∃ run ∈ world.runs, run.status.terminal = true ∧ ¬ Reconciled world.events run.id ∧ Held world.env.db.reservations run.id := by
    decide +kernel
  obtain ⟨run,stored,halted,clean,item,member,own,active⟩ := leaked
  exact always lostReservation run stored halted clean item member own active

end GmsRemoteTest.Automation
